import ContentHub.Json.Reader

namespace ContentHub.Toml

def isBlankChar (c : Char) : Bool :=
  c == ' ' || c == '\t'

def skipBlanks (s : List Char) : List Char :=
  s.dropWhile isBlankChar

def newline? : List Char → Option (List Char)
  | '\n' :: rest => some rest
  | '\r' :: '\n' :: rest => some rest
  | _ => none

def isPlain (c : Char) : Bool :=
  c == '\t' || (0x20 ≤ c.toNat && c.toNat ≠ 0x7f)

def character? (code : Nat) : Option Char :=
  if code.isValidChar then some (Char.ofNat code) else none

def named? (digits : List Char) : Option Char :=
  (digits.mapM Json.hexValue?).bind fun values =>
    character? (values.foldl (fun n d => n * 16 + d) 0)

def letterEscape? (c : Char) : Option Char :=
  if c = '"' ∨ c = '\\' then some c
  else if c = 'b' then some '\x08'
  else if c = 'f' then some '\x0c'
  else if c = 'n' then some '\n'
  else if c = 'r' then some '\r'
  else if c = 't' then some '\t'
  else none

def escape? : List Char → Option (Char × List Char)
  | 'u' :: a :: b :: c :: d :: rest => (named? [a, b, c, d]).map fun x => (x, rest)
  | 'U' :: a :: b :: c :: d :: e :: f :: g :: h :: rest =>
    (named? [a, b, c, d, e, f, g, h]).map fun x => (x, rest)
  | c :: rest => (letterEscape? c).map fun x => (x, rest)
  | [] => none

def basic : Nat → List Char → Option (List Char × List Char)
  | 0, _ => none
  | _ + 1, [] => none
  | _ + 1, '"' :: rest => some ([], rest)
  | fuel + 1, '\\' :: rest =>
    (escape? rest).bind fun (x, rest) => (basic fuel rest).map fun found => (x :: found.1, found.2)
  | fuel + 1, c :: rest =>
    if isPlain c then (basic fuel rest).map fun found => (c :: found.1, found.2) else none

def literal (s : List Char) : Option (List Char × List Char) :=
  let body := s.takeWhile (· ≠ '\'')
  match s.dropWhile (· ≠ '\'') with
  | _ :: rest => if body.all isPlain then some (body, rest) else none
  | [] => none

def closing? (mark : Char) : List Char → Option (List Char × List Char)
  | a :: b :: c :: d :: e :: rest =>
    if [a, b, c, d, e].all (· == mark) then some ([mark, mark], rest)
    else if [a, b, c, d].all (· == mark) then some ([mark], e :: rest)
    else if [a, b, c].all (· == mark) then some ([], d :: e :: rest)
    else none
  | a :: b :: c :: d :: rest =>
    if [a, b, c, d].all (· == mark) then some ([mark], rest)
    else if [a, b, c].all (· == mark) then some ([], d :: rest)
    else none
  | a :: b :: c :: rest => if [a, b, c].all (· == mark) then some ([], rest) else none
  | _ => none

def skipLines : Nat → List Char → List Char
  | 0, s => s
  | fuel + 1, s =>
    match newline? (skipBlanks s) with
    | some rest => skipLines fuel rest
    | none => skipBlanks s

def joinedLine? (s : List Char) : Option (List Char) :=
  (newline? (skipBlanks s)).map fun rest => skipLines (rest.length + 1) rest

def longBasic : Nat → List Char → Option (List Char × List Char)
  | 0, _ => none
  | fuel + 1, s =>
    match closing? '"' s with
    | some found => some found
    | none =>
      match newline? s with
      | some rest => (longBasic fuel rest).map fun found => ('\n' :: found.1, found.2)
      | none =>
        match s with
        | [] => none
        | '\\' :: rest =>
          match joinedLine? rest with
          | some rest => longBasic fuel rest
          | none =>
            (escape? rest).bind fun (x, rest) =>
              (longBasic fuel rest).map fun found => (x :: found.1, found.2)
        | c :: rest =>
          if isPlain c then (longBasic fuel rest).map fun found => (c :: found.1, found.2)
          else none

def longLiteral : Nat → List Char → Option (List Char × List Char)
  | 0, _ => none
  | fuel + 1, s =>
    match closing? '\'' s with
    | some found => some found
    | none =>
      match newline? s with
      | some rest => (longLiteral fuel rest).map fun found => ('\n' :: found.1, found.2)
      | none =>
        match s with
        | [] => none
        | c :: rest =>
          if isPlain c then (longLiteral fuel rest).map fun found => (c :: found.1, found.2)
          else none

def withoutFirstBreak (s : List Char) : List Char :=
  (newline? s).getD s

def shortString? : List Char → Option (String × List Char)
  | '"' :: rest => (basic (rest.length + 1) rest).map fun found => (String.ofList found.1, found.2)
  | '\'' :: rest => (literal rest).map fun found => (String.ofList found.1, found.2)
  | _ => none

def anyString? : List Char → Option (String × List Char)
  | '"' :: '"' :: '"' :: rest =>
    (longBasic (rest.length + 1) (withoutFirstBreak rest)).map fun found =>
      (String.ofList found.1, found.2)
  | '\'' :: '\'' :: '\'' :: rest =>
    (longLiteral (rest.length + 1) (withoutFirstBreak rest)).map fun found =>
      (String.ofList found.1, found.2)
  | s => shortString? s

end ContentHub.Toml
