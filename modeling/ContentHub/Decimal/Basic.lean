namespace ContentHub

/-- The number `digits * 10 ^ exponent`, or its negative. Zero has a sign too. -/
structure Decimal where
  negative : Bool
  digits : Nat
  exponent : Int
deriving DecidableEq, Repr, Inhabited

namespace Decimal

def digitChars (n : Nat) : List Char :=
  Nat.toDigits 10 n

def pointPosition (x : Decimal) : Int :=
  (digitChars x.digits).length + x.exponent

def signChars (x : Decimal) : List Char :=
  if x.negative then ['-'] else []

def unsignedPositional (x : Decimal) : List Char :=
  let digits := digitChars x.digits
  if 0 ≤ x.exponent then digits ++ List.replicate x.exponent.toNat '0' ++ ['.', '0']
  else if 0 < x.pointPosition then
    digits.take x.pointPosition.toNat ++ '.' :: digits.drop x.pointPosition.toNat
  else ['0', '.'] ++ List.replicate (-x.pointPosition).toNat '0' ++ digits

def positional (x : Decimal) : List Char :=
  x.signChars ++ x.unsignedPositional

def exponentChars (e : Int) : List Char :=
  (if e < 0 then '-' else '+') :: digitChars e.natAbs

def unsignedScientific (x : Decimal) : List Char :=
  let mantissa :=
    match digitChars x.digits with
    | [d] => [d]
    | d :: rest => d :: '.' :: rest
    | [] => []
  mantissa ++ 'e' :: exponentChars (x.pointPosition - 1)

def compact (x : Decimal) : List Char :=
  if -5 < x.pointPosition ∧ x.pointPosition ≤ 16 then x.positional
  else x.signChars ++ x.unsignedScientific

end Decimal

end ContentHub
