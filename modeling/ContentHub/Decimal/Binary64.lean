import ContentHub.Decimal.Basic

/-!
Binary floating-point numbers of 53 significant bits: the nearest one of a quotient, and the
shortest decimal that denotes it. All arithmetic is exact on natural numbers.
-/

namespace ContentHub

structure Binary64 where
  significand : Nat
  exponent : Int
deriving DecidableEq, Repr

namespace Binary64

def zero : Binary64 := ⟨0, 0⟩

def minExponent : Int := -1074

def maxExponent : Int := 971

def power (base : Nat) (e : Int) : Nat × Nat :=
  if 0 ≤ e then (Nat.pow base e.toNat, 1) else (1, Nat.pow base (-e).toNat)

def roundQuotient (num den : Nat) : Nat :=
  let quotient := num / den
  let rest := num % den
  if 2 * rest < den then quotient
  else if den < 2 * rest then quotient + 1
  else quotient + quotient % 2

def inUnits (num den : Nat) (e : Int) : Nat × Nat :=
  let unit := power 2 e
  (num * unit.2, den * unit.1)

def unitExponent (num den : Nat) : Int :=
  let e : Int := (num.log2 : Int) - den.log2 - 53
  let units := inUnits num den e
  max minExponent (if units.1 / units.2 < Nat.pow 2 53 then e else e + 1)

/-- The number nearest to `num / den`, the one with even significand in the middle between two;
none if the quotient is too large. -/
def nearest? (num den : Nat) : Option Binary64 :=
  if num = 0 then some zero
  else
    let e := unitExponent num den
    let units := inUnits num den e
    let significand := roundQuotient units.1 units.2
    let x : Binary64 :=
      if significand = Nat.pow 2 53 then ⟨Nat.pow 2 52, e + 1⟩
      else if significand = 0 then zero
      else ⟨significand, e⟩
    if x.exponent ≤ maxExponent then some x else none

def fraction (x : Binary64) : Nat × Nat :=
  let unit := power 2 x.exponent
  (x.significand * unit.1, unit.2)

def decimalPlaces (x : Binary64) : Int :=
  let value := x.fraction
  ((Nat.toDigits 10 (value.1 * Nat.pow 10 343 / value.2)).length : Int) - 343

def reads (x : Binary64) (digits : Nat) (exponent : Int) : Bool :=
  let unit := power 10 exponent
  nearest? (digits * unit.1) unit.2 == some x

def neighbours (x : Binary64) (exponent : Int) : List Nat :=
  let value := x.fraction
  let unit := power 10 exponent
  let num := value.1 * unit.2
  let den := value.2 * unit.1
  let below := num / den
  if roundQuotient num den = below then [below, below + 1] else [below + 1, below]

def shortestFrom (x : Binary64) (places : Int) : (tries count : Nat) → Nat × Int
  | 0, count => ((x.neighbours (places - count)).headD 0, places - count)
  | tries + 1, count =>
    let exponent := places - count
    match (x.neighbours exponent).find? fun digits => x.reads digits exponent with
    | some digits => if digits = Nat.pow 10 count then (1, places) else (digits, exponent)
    | none => shortestFrom x places tries (count + 1)

def shortest (x : Binary64) (negative : Bool) : Decimal :=
  if x.significand = 0 then ⟨negative, 0, 0⟩
  else
    let found := shortestFrom x x.decimalPlaces 16 1
    ⟨negative, found.1, found.2⟩

end Binary64

namespace Decimal

def nearest? (digits length : Nat) (exponent : Int) : Option Binary64 :=
  if digits = 0 then some .zero
  else if length + exponent < -330 then some .zero
  else if 310 < exponent then none
  else
    let unit := Binary64.power 10 exponent
    Binary64.nearest? (digits * unit.1) unit.2

/-- The decimal shown for a number written with digits before and behind the point and a power of
ten: the shortest one with the same nearest floating-point number. None if that is too large. -/
def ofWritten? (negative : Bool) (whole fraction : List Nat) (exponent : Int) : Option Decimal :=
  let digits := whole ++ fraction
  let value := digits.foldl (fun n digit => n * 10 + digit) 0
  (nearest? value digits.length (exponent - fraction.length)).map fun x => x.shortest negative

end Decimal

end ContentHub
