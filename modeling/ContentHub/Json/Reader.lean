import ContentHub.Decimal.Binary64
import ContentHub.Json.Basic

/-!
Reading JSON texts. A text is one value with blanks around it and arrays and objects nested at most
127 deep; comments, trailing commas, other quotation marks and lone surrogates are refused. `read?`
keeps the members of objects as they are written, `parse?` brings them into normal form. Readers of
JSON do not agree on the number that a decimal literal stands for: some take the nearest one, others
round more than once. So `readWith?` and `parseWith?` are told which number it is.
-/

namespace ContentHub.Json

abbrev DecimalReader :=
  (negative : Bool) → (whole fraction : List Nat) → (exponent : Int) → Option Decimal

def isSpace (c : Char) : Bool :=
  c == ' ' || c == '\t' || c == '\n' || c == '\r'

def skipSpaces (s : List Char) : List Char :=
  s.dropWhile isSpace

def hexValue? (c : Char) : Option Nat :=
  if '0' ≤ c ∧ c ≤ '9' then some (c.toNat - '0'.toNat)
  else if 'a' ≤ c ∧ c ≤ 'f' then some (c.toNat - 'a'.toNat + 10)
  else if 'A' ≤ c ∧ c ≤ 'F' then some (c.toNat - 'A'.toNat + 10)
  else none

def unit? (a b c d : Char) : Option Nat :=
  match hexValue? a, hexValue? b, hexValue? c, hexValue? d with
  | some a, some b, some c, some d => some (a * 4096 + b * 256 + c * 16 + d)
  | _, _, _, _ => none

def escaped? (c : Char) : Option Char :=
  if c = '"' then some '"'
  else if c = '\\' then some '\\'
  else if c = '/' then some '/'
  else if c = 'b' then some '\x08'
  else if c = 'f' then some '\x0c'
  else if c = 'n' then some '\n'
  else if c = 'r' then some '\r'
  else if c = 't' then some '\t'
  else none

def isHighSurrogate (n : Nat) : Bool :=
  0xD800 ≤ n && n ≤ 0xDBFF

def isLowSurrogate (n : Nat) : Bool :=
  0xDC00 ≤ n && n ≤ 0xDFFF

def joinSurrogates (high low : Nat) : Char :=
  Char.ofNat ((high - 0xD800) * 1024 + (low - 0xDC00) + 0x10000)

def stringBody : List Char → Option (List Char × List Char)
  | [] => none
  | '"' :: rest => some ([], rest)
  | '\\' :: 'u' :: a :: b :: c :: d :: rest =>
    match unit? a b c d with
    | none => none
    | some n =>
      if isLowSurrogate n then none
      else if isHighSurrogate n then
        match rest with
        | '\\' :: 'u' :: e :: f :: g :: h :: rest =>
          match unit? e f g h with
          | none => none
          | some m =>
            if isLowSurrogate m then
              (stringBody rest).map fun found => (joinSurrogates n m :: found.1, found.2)
            else none
        | _ => none
      else (stringBody rest).map fun found => (Char.ofNat n :: found.1, found.2)
  | '\\' :: c :: rest =>
    match escaped? c with
    | none => none
    | some x => (stringBody rest).map fun found => (x :: found.1, found.2)
  | c :: rest =>
    if c = '\\' ∨ c.toNat < 0x20 then none
    else (stringBody rest).map fun found => (c :: found.1, found.2)

def digitValue (c : Char) : Nat :=
  c.toNat - '0'.toNat

def digitsValue (digits : List Char) : Nat :=
  digits.foldl (fun n c => n * 10 + digitValue c) 0

def leadingDigits (s : List Char) : List Char × List Char :=
  (s.takeWhile Char.isDigit, s.dropWhile Char.isDigit)

def wholeDigits? (s : List Char) : Option (List Char × List Char) :=
  match leadingDigits s with
  | (['0'], rest) => some (['0'], rest)
  | ('0' :: _, _) => none
  | ([], _) => none
  | (digits, rest) => some (digits, rest)

def fractionDigits? : List Char → Option (Option (List Char) × List Char)
  | '.' :: rest =>
    match leadingDigits rest with
    | ([], _) => none
    | (digits, rest) => some (some digits, rest)
  | s => some (none, s)

def signedDigits? (negative : Bool) (s : List Char) : Option (Int × List Char) :=
  match leadingDigits s with
  | ([], _) => none
  | (digits, rest) =>
    some (if negative then -(digitsValue digits : Int) else digitsValue digits, rest)

def exponentDigits? : List Char → Option (Option Int × List Char)
  | c :: rest =>
    if c = 'e' ∨ c = 'E' then
      let found :=
        match rest with
        | '+' :: rest => signedDigits? false rest
        | '-' :: rest => signedDigits? true rest
        | rest => signedDigits? false rest
      found.map fun found => (some found.1, found.2)
    else some (none, c :: rest)
  | [] => some (none, [])

section Values

variable (decimal? : DecimalReader)

/-- The number of a literal. Without point and exponent it is whole if it has at most 64 bits. -/
def number? (negative : Bool) (whole : List Char) (fraction : Option (List Char))
    (exponent : Option Int) : Option Number :=
  let pointed := (decimal? negative (whole.map digitValue)
    ((fraction.getD []).map digitValue) (exponent.getD 0)).map Number.pointed
  if fraction.isSome || exponent.isSome then pointed
  else
    let value := digitsValue whole
    if negative then
      if value ≠ 0 ∧ value ≤ 0x8000000000000000 then some (.whole (-value)) else pointed
    else if value < UInt64.size then some (.whole value)
    else pointed

def numberFrom (negative : Bool) (s : List Char) : Option (Json × List Char) :=
  (wholeDigits? s).bind fun (whole, s) =>
    (fractionDigits? s).bind fun (fraction, s) =>
      (exponentDigits? s).bind fun (exponent, s) =>
        (number? decimal? negative whole fraction exponent).map fun n => (.number n, s)

def numberValue : List Char → Option (Json × List Char)
  | '-' :: s => numberFrom decimal? true s
  | s => numberFrom decimal? false s

def memberKey (s : List Char) : Option (String × List Char) :=
  match skipSpaces s with
  | '"' :: s =>
    (stringBody s).bind fun (key, s) =>
      match skipSpaces s with
      | ':' :: s => some (String.ofList key, s)
      | _ => none
  | _ => none

mutual

def valueFrom : (fuel room : Nat) → List Char → Option (Json × List Char)
  | 0, _, _ => none
  | fuel + 1, room, s =>
    match skipSpaces s with
    | 'n' :: 'u' :: 'l' :: 'l' :: s => some (.null, s)
    | 't' :: 'r' :: 'u' :: 'e' :: s => some (.bool true, s)
    | 'f' :: 'a' :: 'l' :: 's' :: 'e' :: s => some (.bool false, s)
    | '"' :: s => (stringBody s).map fun found => (.string (String.ofList found.1), found.2)
    | '[' :: s =>
      match room with
      | 0 => none
      | room + 1 =>
        match skipSpaces s with
        | ']' :: s => some (.array [], s)
        | s =>
          (valueFrom fuel room s).bind fun (item, s) =>
            (itemsFrom fuel room s).map fun found => (.array (item :: found.1), found.2)
    | '{' :: s =>
      match room with
      | 0 => none
      | room + 1 =>
        match skipSpaces s with
        | '}' :: s => some (.object [], s)
        | s =>
          (memberKey s).bind fun (key, s) =>
            (valueFrom fuel room s).bind fun (value, s) =>
              (membersFrom fuel room s).map fun found =>
                (.object ((key, value) :: found.1), found.2)
    | s => numberValue decimal? s

def itemsFrom : (fuel room : Nat) → List Char → Option (List Json × List Char)
  | 0, _, _ => none
  | fuel + 1, room, s =>
    match skipSpaces s with
    | ']' :: s => some ([], s)
    | ',' :: s =>
      (valueFrom fuel room s).bind fun (item, s) =>
        (itemsFrom fuel room s).map fun found => (item :: found.1, found.2)
    | _ => none

def membersFrom : (fuel room : Nat) → List Char → Option (List (String × Json) × List Char)
  | 0, _, _ => none
  | fuel + 1, room, s =>
    match skipSpaces s with
    | '}' :: s => some ([], s)
    | ',' :: s =>
      (memberKey s).bind fun (key, s) =>
        (valueFrom fuel room s).bind fun (value, s) =>
          (membersFrom fuel room s).map fun found => ((key, value) :: found.1, found.2)
    | _ => none

end

def maxDepth : Nat := 127

/-- Reads a whole text. Every step of the reader takes a character, so the length of the text
bounds their number. -/
def readWith? (s : List Char) : Option Json :=
  (valueFrom decimal? (s.length + 1) maxDepth s).bind fun (value, s) =>
    if skipSpaces s = [] then some value else none

def parseWith? (s : String) : Option Json :=
  (readWith? decimal? s.toList).map normal

end Values

def read? : List Char → Option Json :=
  readWith? Decimal.ofWritten?

def parse? : String → Option Json :=
  parseWith? Decimal.ofWritten?

end ContentHub.Json
