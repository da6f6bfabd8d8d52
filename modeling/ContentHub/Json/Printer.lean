import ContentHub.Json.Basic

namespace ContentHub.Json

def escapedChar (c : Char) : List Char :=
  if c = '"' then ['\\', '"']
  else if c = '\\' then ['\\', '\\']
  else if c = '\x08' then ['\\', 'b']
  else if c = '\t' then ['\\', 't']
  else if c = '\n' then ['\\', 'n']
  else if c = '\x0c' then ['\\', 'f']
  else if c = '\r' then ['\\', 'r']
  else if c.toNat < 0x20 then
    ['\\', 'u', '0', '0', Nat.digitChar (c.toNat / 16), Nat.digitChar (c.toNat % 16)]
  else [c]

def stringChars (s : String) : List Char :=
  '"' :: s.toList.flatMap escapedChar ++ ['"']

def wholeChars (n : Int) : List Char :=
  if n < 0 then '-' :: Decimal.digitChars n.natAbs else Decimal.digitChars n.natAbs

def numberChars : Number → List Char
  | .whole n => wholeChars n
  | .pointed x => x.compact

mutual

def chars : Json → List Char
  | .null => ['n', 'u', 'l', 'l']
  | .bool true => ['t', 'r', 'u', 'e']
  | .bool false => ['f', 'a', 'l', 's', 'e']
  | .number n => numberChars n
  | .string s => stringChars s
  | .array [] => ['[', ']']
  | .array (item :: rest) => '[' :: chars item ++ itemsTail rest
  | .object [] => ['{', '}']
  | .object ((key, value) :: rest) =>
    '{' :: stringChars key ++ ':' :: chars value ++ membersTail rest

def itemsTail : List Json → List Char
  | [] => [']']
  | item :: rest => ',' :: chars item ++ itemsTail rest

def membersTail : List (String × Json) → List Char
  | [] => ['}']
  | (key, value) :: rest => ',' :: stringChars key ++ ':' :: chars value ++ membersTail rest

end

def print (value : Json) : String :=
  String.ofList value.chars

def newLine (depth : Nat) : List Char :=
  '\n' :: List.replicate (2 * depth) ' '

mutual

def prettyChars (depth : Nat) : Json → List Char
  | .array [] => ['[', ']']
  | .array (item :: rest) =>
    '[' :: newLine (depth + 1) ++ prettyChars (depth + 1) item ++ prettyItemsTail depth rest
  | .object [] => ['{', '}']
  | .object ((key, value) :: rest) =>
    '{' :: newLine (depth + 1) ++ stringChars key ++ [':', ' '] ++
      prettyChars (depth + 1) value ++ prettyMembersTail depth rest
  | .null => ['n', 'u', 'l', 'l']
  | .bool b => chars (.bool b)
  | .number n => numberChars n
  | .string s => stringChars s

def prettyItemsTail (depth : Nat) : List Json → List Char
  | [] => newLine depth ++ [']']
  | item :: rest =>
    ',' :: newLine (depth + 1) ++ prettyChars (depth + 1) item ++ prettyItemsTail depth rest

def prettyMembersTail (depth : Nat) : List (String × Json) → List Char
  | [] => newLine depth ++ ['}']
  | (key, value) :: rest =>
    ',' :: newLine (depth + 1) ++ stringChars key ++ [':', ' '] ++
      prettyChars (depth + 1) value ++ prettyMembersTail depth rest

end

def pretty (value : Json) : String :=
  String.ofList (value.prettyChars 0)

end ContentHub.Json
