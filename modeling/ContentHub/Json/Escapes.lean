import ContentHub.Json.Reader

/-!
The codes that the inside of a string literal stands for, where a backslash starts an escape. The
text is read byte by byte from its UTF-8 form, and every text has a reading: a malformed escape
stands for a code of its own, and an escape that ends inside a character leaves its other bytes
as codes. Codes need not be characters.
-/

namespace ContentHub.Json.Escapes

def faultyCode : Nat := 0x99999

def digitCode (b : UInt8) : Nat :=
  (b.toNat + 9 * (b.toNat / 64 % 2)) % 16

def digitCodes (digits : List UInt8) : Nat :=
  digits.foldl (fun n b => n * 16 + digitCode b) 0

def letterCode (b : UInt8) : Nat :=
  if b = 0x62 then 8
  else if b = 0x74 then 9
  else if b = 0x6E then 10
  else if b = 0x76 then 11
  else if b = 0x66 then 12
  else if b = 0x72 then 13
  else if b = 0x30 then 0
  else if b = 0x27 ∨ b = 0x22 ∨ b = 0x2F ∨ b = 0x5C then b.toNat
  else faultyCode

def readTail (code : Nat) : (limit : Nat) → List UInt8 → Nat × List UInt8
  | limit + 1, b :: rest =>
    if b.toNat / 64 = 2 then readTail (code * 64 + b.toNat % 64) limit rest else (code, b :: rest)
  | _, s => (code, s)

def readPlain : List UInt8 → Nat × List UInt8
  | [] => (0, [])
  | b :: rest =>
    if b < 0xC0 then (b.toNat, rest)
    else if b < 0xE0 then readTail (b.toNat - 0xC0) 3 rest
    else if b < 0xF0 then readTail (b.toNat - 0xE0) 3 rest
    else readTail (b.toNat - 0xF0) 3 rest

def readUnit : List UInt8 → Nat × List UInt8
  | a :: b :: c :: d :: rest =>
    let high := digitCodes [a, b, c, d]
    match rest with
    | 0x5C :: 0x75 :: e :: f :: g :: h :: after =>
      let low := digitCodes [e, f, g, h]
      if isHighSurrogate high && isLowSurrogate low then
        ((joinSurrogates high low).toNat, after)
      else (high, rest)
    | _ => (high, rest)
  | _ => (faultyCode, [])

/-- Reads an escape behind its backslash. A malformed one reaches to the end unless it is one that
is not known. -/
def readEscape : List UInt8 → Nat × List UInt8
  | [] => (faultyCode, [])
  | b :: rest =>
    if b = 0x75 then readUnit rest
    else if b = 0x78 then
      match rest with
      | a :: b :: rest => (digitCodes [a, b], rest)
      | _ => (faultyCode, [])
    else if b = 0xE2 then (faultyCode, [])
    else (letterCode b, rest)

def skipLineEnds : List UInt8 → List UInt8
  | 0x5C :: 0x0A :: rest => skipLineEnds rest
  | 0x5C :: 0x0D :: 0x0A :: rest => skipLineEnds rest
  | 0x5C :: 0x0D :: rest => skipLineEnds rest
  | 0x5C :: 0xE2 :: 0x80 :: 0xA8 :: rest => skipLineEnds rest
  | 0x5C :: 0xE2 :: 0x80 :: 0xA9 :: rest => skipLineEnds rest
  | s => s

def readCode (s : List UInt8) : Nat × List UInt8 :=
  match skipLineEnds s with
  | 0x5C :: rest => readEscape rest
  | s => readPlain s

def codesFrom : (fuel : Nat) → List UInt8 → List Nat
  | 0, _ => []
  | _, [] => []
  | fuel + 1, s => (readCode s).1 :: codesFrom fuel (readCode s).2

def ofBytes (bytes : List UInt8) : List Nat :=
  codesFrom bytes.length bytes

end Escapes

def codes (text : List Char) : List Nat :=
  if text.contains '\\' then Escapes.ofBytes (text.flatMap String.utf8EncodeChar)
  else text.map Char.toNat

end ContentHub.Json
