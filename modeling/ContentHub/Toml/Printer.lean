import ContentHub.Json.Printer

namespace ContentHub.Toml

def isControl (c : Char) : Bool :=
  c.toNat < 0x20 || c.toNat = 0x7f

def hasThree (mark : Char) : List Char → Bool
  | a :: b :: c :: rest => (a == mark && b == mark && c == mark) || hasThree mark (b :: c :: rest)
  | _ => false

inductive StringForm
  | basic
  | literal
  | longBasic
  | longLiteral
deriving DecidableEq, Repr

def StringForm.fits (s : List Char) : StringForm → Bool
  | .basic => s.all fun c => (!isControl c || c == '\t') && c ≠ '"' && c ≠ '\\'
  | .literal => s.all fun c => (!isControl c || c == '\t') && c ≠ '\''
  | .longBasic =>
    (s.all fun c => (!isControl c || c == '\t' || c == '\n') && c ≠ '\\') && !hasThree '"' s
  | .longLiteral =>
    (s.all fun c => !isControl c || c == '\t' || c == '\n') && !hasThree '\'' s

def StringForm.choose (s : List Char) : StringForm :=
  match [StringForm.basic, .literal, .longBasic, .longLiteral].find? fun form => form.fits s with
  | some form => form
  | none => if s.contains '\n' then .longBasic else .basic

def upperHex (n : Nat) : Char :=
  (Nat.digitChar n).toUpper

def escapedChar (long : Bool) (c : Char) : List Char :=
  if c = '\x08' then ['\\', 'b']
  else if c = '\t' then ['\\', 't']
  else if c = '\n' then (if long then ['\n'] else ['\\', 'n'])
  else if c = '\x0c' then ['\\', 'f']
  else if c = '\r' then ['\\', 'r']
  else if c = '\\' then ['\\', '\\']
  else if isControl c then
    ['\\', 'u', '0', '0', upperHex (c.toNat / 16), upperHex (c.toNat % 16)]
  else [c]

def escapedChars (long : Bool) (marks : Nat) : List Char → List Char
  | [] => []
  | '"' :: rest =>
    if long ∧ marks < 2 then '"' :: escapedChars long (marks + 1) rest
    else '\\' :: '"' :: escapedChars long 0 rest
  | c :: rest => escapedChar long c ++ escapedChars long 0 rest

def firstBreak (s : List Char) : List Char :=
  if s.contains '\n' then ['\n'] else []

def stringChars (s : List Char) : List Char :=
  match StringForm.choose s with
  | .basic => '"' :: escapedChars false 0 s ++ ['"']
  | .literal => '\'' :: s ++ ['\'']
  | .longBasic => ['"', '"', '"'] ++ firstBreak s ++ escapedChars true 0 s ++ ['"', '"', '"']
  | .longLiteral => ['\'', '\'', '\''] ++ firstBreak s ++ s ++ ['\'', '\'', '\'']

def printString (s : String) : String :=
  String.ofList (stringChars s.toList)

end ContentHub.Toml
