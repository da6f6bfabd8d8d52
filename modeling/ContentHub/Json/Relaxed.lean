import ContentHub.Json.Basic
import ContentHub.Json.Escapes

/-!
The relaxed form of JSON texts: comments, more blanks, commas behind the last item, strings between
single marks, keys without marks, and more ways to write numbers. Arrays and objects may be nested
1000 deep. What is read is the outline of a text; `readOutline?` reads the strict form as well.
-/

namespace ContentHub.Json.Relaxed

def isSpace (c : Char) : Bool :=
  (0x09 ≤ c.toNat && c.toNat ≤ 0x0d) || c == ' ' || c.toNat == 0xa0 || c.toNat == 0x1680 ||
    (0x2000 ≤ c.toNat && c.toNat ≤ 0x200a) || c.toNat == 0x2028 || c.toNat == 0x2029 ||
    c.toNat == 0x202f || c.toNat == 0x205f || c.toNat == 0x3000 || c.toNat == 0xfeff

def endsLine (c : Char) : Bool :=
  c == '\n' || c == '\r' || c.toNat == 0x2028 || c.toNat == 0x2029

def afterComment? : List Char → Option (List Char)
  | '*' :: '/' :: rest => some rest
  | _ :: rest => afterComment? rest
  | [] => none

def skip : Nat → List Char → List Char
  | 0, s => s
  | fuel + 1, s =>
    match s with
    | '/' :: '*' :: rest =>
      match afterComment? rest with
      | some rest => skip fuel rest
      | none => s
    | '/' :: '/' :: rest => skip fuel ((rest.dropWhile fun c => !endsLine c).drop 1)
    | c :: rest => if isSpace c then skip fuel rest else s
    | [] => []

def skipFiller (s : List Char) : List Char :=
  skip (s.length + 1) s

def isHex (c : Char) : Bool :=
  (hexValue? c).isSome

def isEscapable (c : Char) : Bool :=
  (escaped? c).isSome || c == 'v' || c == '0' || c == '\'' || endsLine c

def stringBody (mark : Char) : List Char → Option (List Char × List Char)
  | [] => none
  | '\\' :: 'u' :: a :: b :: c :: d :: rest =>
    if [a, b, c, d].all isHex then
      (stringBody mark rest).map fun found =>
        ('\\' :: 'u' :: a :: b :: c :: d :: found.1, found.2)
    else none
  | '\\' :: 'x' :: a :: b :: rest =>
    if isHex a && isHex b then
      (stringBody mark rest).map fun found => ('\\' :: 'x' :: a :: b :: found.1, found.2)
    else none
  | '\\' :: '\r' :: '\n' :: rest =>
    (stringBody mark rest).map fun found => ('\\' :: '\r' :: '\n' :: found.1, found.2)
  | '\\' :: c :: rest =>
    if isEscapable c then (stringBody mark rest).map fun found => ('\\' :: c :: found.1, found.2)
    else none
  | c :: rest =>
    if c = mark then some ([], rest)
    else if c = '\\' ∨ c.toNat < 0x20 then none
    else (stringBody mark rest).map fun found => (c :: found.1, found.2)

def stringCodes (mark : Char) (s : List Char) : Option (List Nat × List Char) :=
  (stringBody mark s).map fun found => (codes found.1, found.2)

def startsKey (c : Char) : Bool :=
  c.isAlpha || c == '$' || c == '_' || 0x80 ≤ c.toNat

def continuesKey (c : Char) : Bool :=
  (startsKey c || c.isDigit) && !isSpace c

def bareKey : List Char → List Char × List Char
  | [] => ([], [])
  | '\\' :: 'u' :: a :: b :: c :: d :: rest =>
    if [a, b, c, d].all isHex then
      let found := bareKey rest
      ('\\' :: 'u' :: a :: b :: c :: d :: found.1, found.2)
    else ([], '\\' :: 'u' :: a :: b :: c :: d :: rest)
  | c :: rest =>
    if continuesKey c then
      let found := bareKey rest
      (c :: found.1, found.2)
    else ([], c :: rest)

def afterWord? (word : String) (s : List Char) : Option (List Char) :=
  let found := s.take word.length
  let rest := s.drop word.length
  if found.map Char.toLower = word.toList ∧ !(rest.head?).any Char.isAlphanum then some rest
  else none

def named? (s : List Char) : Option (Outline × List Char) :=
  match ["nan", "qnan", "snan"].findSome? fun word => afterWord? word s with
  | some rest => some (.null, rest)
  | none =>
    (["inf", "infinity"].findSome? fun word => afterWord? word s).map fun rest => (.other, rest)

def hexDigits? : List Char → Option (List Char)
  | c :: rest => if isHex c then some (rest.dropWhile isHex) else none
  | [] => none

def afterExponent? : List Char → Option (List Char)
  | c :: rest =>
    if c = 'e' ∨ c = 'E' then
      let digits :=
        match rest with
        | '+' :: rest => rest
        | '-' :: rest => rest
        | rest => rest
      if (digits.head?).any Char.isDigit then some (digits.dropWhile Char.isDigit) else none
    else some (c :: rest)
  | [] => some []

def afterNumber? (s : List Char) : Option (List Char) :=
  let before := s.takeWhile Char.isDigit
  let rest := s.dropWhile Char.isDigit
  match before, rest with
  | ['0'], 'x' :: rest => hexDigits? rest
  | ['0'], 'X' :: rest => hexDigits? rest
  | '0' :: _ :: _, _ => none
  | before, '.' :: rest =>
    if before = [] ∧ !(rest.head?).any Char.isDigit then none
    else afterExponent? (rest.dropWhile Char.isDigit)
  | [], _ => none
  | _, rest => afterExponent? rest

def afterInfinity? (s : List Char) : Option (List Char) :=
  let folded := s.map Char.toLower
  if "infinity".toList.isPrefixOf folded then some (s.drop 8)
  else if "inf".toList.isPrefixOf folded then some (s.drop 3)
  else none

def signedNumber? (s : List Char) : Option (Outline × List Char) :=
  ((afterInfinity? s).or (afterNumber? s)).map fun rest => (.other, rest)

def plainValue? (s : List Char) : Option (Outline × List Char) :=
  match s with
  | '+' :: rest => signedNumber? rest
  | '-' :: rest => signedNumber? rest
  | 't' :: 'r' :: 'u' :: 'e' :: _ => (afterWord? "true" s).map fun rest => (.other, rest)
  | 'f' :: 'a' :: 'l' :: 's' :: 'e' :: _ =>
    (afterWord? "false" s).map fun rest => (.other, rest)
  | 'n' :: 'u' :: 'l' :: 'l' :: _ => (afterWord? "null" s).map fun rest => (.null, rest)
  | s =>
    match named? s with
    | some found => some found
    | none => (afterNumber? s).map fun rest => (.other, rest)

def key? (s : List Char) : Option (List Nat × List Char) :=
  match s with
  | '"' :: s => stringCodes '"' s
  | '\'' :: s => stringCodes '\'' s
  | [] => none
  | c :: _ =>
    if (plainValue? s).isSome then none
    else if startsKey c ∨ c = '\\' then
      let found := bareKey s
      if found.1 = [] then none else some (codes found.1, found.2)
    else none

mutual

def valueFrom : (fuel room : Nat) → List Char → Option (Outline × List Char)
  | 0, _, _ => none
  | fuel + 1, room, s =>
    match skipFiller s with
    | '"' :: s => (stringCodes '"' s).map fun found => (.text found.1, found.2)
    | '\'' :: s => (stringCodes '\'' s).map fun found => (.text found.1, found.2)
    | '[' :: s =>
      match room with
      | 0 => none
      | room + 1 => (itemsFrom fuel room s).map fun rest => (.other, rest)
    | '{' :: s =>
      match room with
      | 0 => none
      | room + 1 => (membersFrom fuel room s).map fun found => (.object found.1, found.2)
    | s => plainValue? s

def itemsFrom : (fuel room : Nat) → List Char → Option (List Char)
  | 0, _, _ => none
  | fuel + 1, room, s =>
    match skipFiller s with
    | ']' :: s => some s
    | s =>
      (valueFrom fuel room s).bind fun (_, s) =>
        match skipFiller s with
        | ',' :: s => itemsFrom fuel room s
        | ']' :: s => some s
        | _ => none

def membersFrom : (fuel room : Nat) → List Char → Option (List (List Nat × Outline) × List Char)
  | 0, _, _ => none
  | fuel + 1, room, s =>
    match skipFiller s with
    | '}' :: s => some ([], s)
    | s =>
      (key? s).bind fun (key, s) =>
        match skipFiller s with
        | ':' :: s =>
          (valueFrom fuel room s).bind fun (value, s) =>
            match skipFiller s with
            | ',' :: s =>
              (membersFrom fuel room s).map fun found => ((key, value) :: found.1, found.2)
            | '}' :: s => some ([(key, value)], s)
            | _ => none
        | _ => none

end

def maxDepth : Nat := 1000

end Relaxed

def readRelaxed? (s : List Char) : Option Outline :=
  (Relaxed.valueFrom (2 * s.length + 2) Relaxed.maxDepth s).bind fun (value, s) =>
    if Relaxed.skipFiller s = [] then some value else none

def readOutline? (s : List Char) : Option Outline :=
  match read? s with
  | some document => some document.outline
  | none => readRelaxed? s

end ContentHub.Json
