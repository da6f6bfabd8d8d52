namespace ContentHub.Text

inductive NaturalFault
  | empty
  | invalidDigit
  | tooLarge
deriving DecidableEq, Repr

def NaturalFault.message : NaturalFault → String
  | .empty => "cannot parse integer from empty string"
  | .invalidDigit => "invalid digit found in string"
  | .tooLarge => "number too large to fit in target type"

def digit? (c : Char) : Option Nat :=
  if c.isDigit then some (c.toNat - '0'.toNat) else none

def readDigits (limit value : Nat) : List Char → Except NaturalFault Nat
  | [] => .ok value
  | c :: rest =>
    match digit? c with
    | none => .error .invalidDigit
    | some d =>
      if value * 10 + d < limit then readDigits limit (value * 10 + d) rest
      else .error .tooLarge

def readNatural (limit : Nat) : List Char → Except NaturalFault Nat
  | [] => .error .empty
  | ['+'] => .error .invalidDigit
  | '+' :: rest => readDigits limit 0 rest
  | s => readDigits limit 0 s

def readWord (s : String) : Except NaturalFault UInt32 :=
  (readNatural UInt32.size s.toList).map UInt32.ofNat

theorem readDigits_lt (limit value : Nat) (s : List Char) (n : Nat) (hvalue : value < limit)
    (h : readDigits limit value s = .ok n) : n < limit := by
  induction s generalizing value with
  | nil =>
    obtain rfl : value = n := by simpa [readDigits] using h
    exact hvalue
  | cons c rest ih =>
    unfold readDigits at h
    split at h
    · contradiction
    · split at h
      · exact ih _ (by assumption) h
      · contradiction

theorem readNatural_lt (limit : Nat) (s : List Char) (n : Nat) (hlimit : 0 < limit)
    (h : readNatural limit s = .ok n) : n < limit := by
  unfold readNatural at h
  split at h
  · contradiction
  · contradiction
  · exact readDigits_lt limit 0 _ n hlimit h
  · exact readDigits_lt limit 0 _ n hlimit h

end ContentHub.Text
