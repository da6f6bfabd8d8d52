import ContentHub.Decimal.Binary64
import ContentHub.Json.Reader
import ContentHub.Toml.Basic

namespace ContentHub.Toml

def plainDigits? (isDigit : Char → Bool) : List Char → Option (List Char)
  | [] => none
  | [c] => if isDigit c then some [c] else none
  | c :: '_' :: rest => if isDigit c then (plainDigits? isDigit rest).map (c :: ·) else none
  | c :: rest => if isDigit c then (plainDigits? isDigit rest).map (c :: ·) else none

def sign : List Char → Bool × List Char
  | '-' :: rest => (true, rest)
  | '+' :: rest => (false, rest)
  | s => (false, s)

def isExponentMark (c : Char) : Bool :=
  c == 'e' || c == 'E'

def wholeDigits? (s : List Char) : Option (List Char) :=
  match plainDigits? Char.isDigit s with
  | some ['0'] => some ['0']
  | some ('0' :: _) => none
  | found => found

def exponent? : List Char → Option Int
  | [] => some 0
  | _ :: rest =>
    (plainDigits? Char.isDigit (sign rest).2).map fun digits =>
      if (sign rest).1 then -(Json.digitsValue digits : Int) else Json.digitsValue digits

def pointed? (negative : Bool) (whole fraction : List Char) (exponent : Int) : Option Value :=
  match Decimal.ofWritten? negative (whole.map Json.digitValue) (fraction.map Json.digitValue)
      exponent with
  | some x => some (.pointed (some x))
  | none => if negative then some (.pointed none) else none

def integer? (negative : Bool) (digits : List Char) : Option Value :=
  let n : Int := if negative then -(Json.digitsValue digits : Int) else Json.digitsValue digits
  if -0x8000000000000000 ≤ n ∧ n < 0x8000000000000000 then some (.whole n) else none

def based? (base : Nat) (s : List Char) : Option Value :=
  let isDigit := fun c => (Json.hexValue? c).any fun d => d < base
  (plainDigits? isDigit s).bind fun digits =>
    let n := digits.foldl (fun n c => n * base + (Json.hexValue? c).getD 0) 0
    if n < 0x8000000000000000 then some (.whole n) else none

def decimal? (s : List Char) : Option Value :=
  let negative := (sign s).1
  let body := (sign s).2
  if body = ['i', 'n', 'f'] ∨ body = ['n', 'a', 'n'] then some (.pointed none)
  else
    let inWhole := fun c => c ≠ '.' && !isExponentMark c
    (wholeDigits? (body.takeWhile inWhole)).bind fun whole =>
      match body.dropWhile inWhole with
      | [] => integer? negative whole
      | '.' :: rest =>
        let inFraction := fun c => !isExponentMark c
        (plainDigits? Char.isDigit (rest.takeWhile inFraction)).bind fun fraction =>
          (exponent? (rest.dropWhile inFraction)).bind (pointed? negative whole fraction)
      | rest => (exponent? rest).bind (pointed? negative whole [])

def pair? (low high : Nat) (c d : Char) : Option Nat :=
  if c.isDigit ∧ d.isDigit then
    let n := Json.digitsValue [c, d]
    if low ≤ n ∧ n ≤ high then some n else none
  else none

def isLeapYear (year : Nat) : Bool :=
  year % 4 = 0 ∧ (year % 100 ≠ 0 ∨ year % 400 = 0)

def daysIn (year month : Nat) : Nat :=
  if month = 2 then (if isLeapYear year then 29 else 28)
  else if month ∈ [4, 6, 9, 11] then 30
  else 31

def afterDate? : List Char → Option (List Char)
  | a :: b :: c :: d :: '-' :: e :: f :: '-' :: g :: h :: rest =>
    if [a, b, c, d].all Char.isDigit then
      (pair? 1 12 e f).bind fun month =>
        (pair? 1 (daysIn (Json.digitsValue [a, b, c, d]) month) g h).map fun _ => rest
    else none
  | _ => none

def afterTime? : List Char → Option (List Char)
  | a :: b :: ':' :: c :: d :: ':' :: e :: f :: rest =>
    (pair? 0 23 a b).bind fun _ =>
      (pair? 0 59 c d).bind fun _ =>
        (pair? 0 60 e f).bind fun _ =>
          match rest with
          | '.' :: rest =>
            if (rest.head?).any Char.isDigit then some (rest.dropWhile Char.isDigit) else none
          | rest => some rest
  | _ => none

def isOffset : List Char → Bool
  | [] => true
  | [c] => c == 'Z' || c == 'z'
  | [s, a, b, ':', c, d] =>
    (s == '+' || s == '-') && (pair? 0 23 a b).isSome && (pair? 0 59 c d).isSome
  | _ => false

def isDate (s : List Char) : Bool :=
  afterDate? s == some []

def isMoment (s : List Char) : Bool :=
  match afterDate? s with
  | some [] => true
  | some (c :: rest) =>
    (c == 'T' || c == 't' || c == ' ') && (afterTime? rest).any isOffset
  | none => afterTime? s == some []

def isTokenChar (c : Char) : Bool :=
  c.isAlphanum || c == '+' || c == '-' || c == '_' || c == '.' || c == ':'

def cutToken (s : List Char) : List Char × List Char :=
  let token := s.takeWhile isTokenChar
  match s.dropWhile isTokenChar with
  | ' ' :: c :: rest =>
    if isDate token ∧ c.isDigit then
      (token ++ ' ' :: (c :: rest).takeWhile isTokenChar, (c :: rest).dropWhile isTokenChar)
    else (token, ' ' :: c :: rest)
  | rest => (token, rest)

def tokenValue? (token : List Char) : Option Value :=
  match token with
  | ['t', 'r', 'u', 'e'] => some (.truth true)
  | ['f', 'a', 'l', 's', 'e'] => some (.truth false)
  | '0' :: 'x' :: digits => based? 16 digits
  | '0' :: 'o' :: digits => based? 8 digits
  | '0' :: 'b' :: digits => based? 2 digits
  | token => if isMoment token then some (.date (String.ofList token)) else decimal? token

end ContentHub.Toml
