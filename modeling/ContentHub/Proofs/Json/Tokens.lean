import ContentHub.Json.Printer
import ContentHub.Json.Reader
import Mathlib.Data.List.TakeWhile
import Mathlib.Tactic

namespace ContentHub.Json

inductive Closed : List Char → Prop
  | finish : Closed []
  | comma (rest : List Char) : Closed (',' :: rest)
  | bracket (rest : List Char) : Closed (']' :: rest)
  | brace (rest : List Char) : Closed ('}' :: rest)
  | space (rest : List Char) : Closed (' ' :: rest)
  | line (rest : List Char) : Closed ('\n' :: rest)

section Numbers

variable {rest : List Char} {decimal? : DecimalReader}

lemma leadingDigits_append (h : Closed rest) (s : List Char) :
    leadingDigits (s ++ rest) = ((leadingDigits s).1, (leadingDigits s).2 ++ rest) := by
  induction s with
  | nil => cases h <;> rfl
  | cons c s ih =>
    simp only [leadingDigits, Prod.mk.injEq] at ih
    by_cases hc : c.isDigit <;> simp [leadingDigits, hc, ih]

lemma wholeDigits?_append (h : Closed rest) (s : List Char) :
    wholeDigits? (s ++ rest) = (wholeDigits? s).map fun found => (found.1, found.2 ++ rest) := by
  simp only [wholeDigits?, leadingDigits_append h]
  rcases leadingDigits s with ⟨digits, behind⟩
  simp only
  split <;> simp_all

lemma fractionDigits?_append (h : Closed rest) (s : List Char) :
    fractionDigits? (s ++ rest) =
      (fractionDigits? s).map fun found => (found.1, found.2 ++ rest) := by
  cases s with
  | nil => cases h <;> rfl
  | cons c s =>
    by_cases hpoint : c = '.'
    · subst hpoint
      simp only [List.cons_append, fractionDigits?, leadingDigits_append h]
      rcases leadingDigits s with ⟨digits, behind⟩
      cases digits <;> rfl
    · simp [fractionDigits?, hpoint]

lemma signedDigits?_append (h : Closed rest) (negative : Bool) (s : List Char) :
    signedDigits? negative (s ++ rest) =
      (signedDigits? negative s).map fun found => (found.1, found.2 ++ rest) := by
  simp only [signedDigits?, leadingDigits_append h]
  rcases leadingDigits s with ⟨digits, behind⟩
  cases digits <;> rfl

lemma exponentDigits?_append (h : Closed rest) (s : List Char) :
    exponentDigits? (s ++ rest) =
      (exponentDigits? s).map fun found => (found.1, found.2 ++ rest) := by
  cases s with
  | nil => cases h <;> rfl
  | cons c s =>
    by_cases hmark : c = 'e' ∨ c = 'E'
    · simp only [List.cons_append, exponentDigits?, if_pos hmark]
      cases s with
      | nil => cases h <;> rfl
      | cons sign s =>
        by_cases hplus : sign = '+'
        · subst hplus
          simp [signedDigits?_append h, Function.comp_def]
        · by_cases hminus : sign = '-'
          · subst hminus
            simp [signedDigits?_append h, Function.comp_def]
          · have hsigned := signedDigits?_append h false (sign :: s)
            rw [List.cons_append] at hsigned
            simp [hplus, hminus, hsigned, Function.comp_def]
    · simp [exponentDigits?, hmark]

lemma numberFrom_append (h : Closed rest) (negative : Bool) (s : List Char) :
    numberFrom decimal? negative (s ++ rest) =
      (numberFrom decimal? negative s).map fun found => (found.1, found.2 ++ rest) := by
  simp only [numberFrom, wholeDigits?_append h]
  cases wholeDigits? s with
  | none => rfl
  | some found =>
    simp only [Option.map_some, Option.bind_some, fractionDigits?_append h]
    cases fractionDigits? found.2 with
    | none => rfl
    | some found =>
      simp only [Option.map_some, Option.bind_some, exponentDigits?_append h]
      cases exponentDigits? found.2 with
      | none => rfl
      | some found => simp [Function.comp_def]

lemma numberValue_append (h : Closed rest) (s : List Char) :
    numberValue decimal? (s ++ rest) =
      (numberValue decimal? s).map fun found => (found.1, found.2 ++ rest) := by
  cases s with
  | nil => cases h <;> rfl
  | cons c s =>
    by_cases hminus : c = '-'
    · subst hminus
      exact numberFrom_append h true s
    · have hfrom : numberFrom decimal? false (c :: s ++ rest) = _ :=
        numberFrom_append h false (c :: s)
      simpa [numberValue, hminus] using hfrom

lemma head?_digitChars (n : ℕ) (hn : 0 < n) : (Decimal.digitChars n).head? ≠ some '0' := by
  rw [Decimal.digitChars]
  induction n using Nat.base_induction 10 (by decide) with
  | single m hm => simp [Nat.toDigits_of_lt_base hm, hn.ne']
  | digit m k hk hm ih =>
    rw [← Nat.toDigits_append_toDigits (by decide) hm hk,
      List.head?_append_of_ne_nil _ Nat.toDigits_ne_nil]
    exact ih hm

lemma isDigit_of_mem_digitChars (n : ℕ) (c : Char) (h : c ∈ Decimal.digitChars n) :
    c.isDigit = true :=
  Nat.isDigit_of_mem_toDigits (by decide) (by decide) h

lemma leadingDigits_digitChars (n : ℕ) :
    leadingDigits (Decimal.digitChars n) = (Decimal.digitChars n, []) := by
  rw [leadingDigits, List.takeWhile_eq_self_iff.mpr (isDigit_of_mem_digitChars n),
    List.dropWhile_eq_nil_iff.mpr (isDigit_of_mem_digitChars n)]

lemma wholeDigits?_digitChars (n : ℕ) :
    wholeDigits? (Decimal.digitChars n) = some (Decimal.digitChars n, []) := by
  rcases n.eq_zero_or_pos with rfl | hn
  · rfl
  · have hhead := head?_digitChars n hn
    simp only [wholeDigits?, leadingDigits_digitChars]
    split <;> simp_all [Decimal.digitChars]

lemma digitsValue_digitChars (n : ℕ) : digitsValue (Decimal.digitChars n) = n := by
  have h := Nat.ofDigitChars_ten_toDigits (n := n)
  simpa [Decimal.digitChars, digitsValue, digitValue, Nat.ofDigitChars, Nat.mul_comm] using h

lemma numberFrom_digitChars (negative : Bool) (n : ℕ) (number : Number)
    (h : number? decimal? negative (Decimal.digitChars n) none none = some number) :
    numberFrom decimal? negative (Decimal.digitChars n) = some (.number number, []) := by
  simp [numberFrom, wholeDigits?_digitChars, fractionDigits?, exponentDigits?, h]

lemma numberValue_digitChars (n : ℕ) :
    numberValue decimal? (Decimal.digitChars n) =
      numberFrom decimal? false (Decimal.digitChars n) := by
  cases hdigits : Decimal.digitChars n with
  | nil => rfl
  | cons c s =>
    have hc := isDigit_of_mem_digitChars n c (by simp [hdigits])
    have hminus : c ≠ '-' := fun h => by simp [h] at hc
    simp [numberValue, hminus]

lemma numberValue_whole (n : ℤ) (hlow : -0x8000000000000000 ≤ n) (hhigh : n < UInt64.size) :
    numberValue decimal? (wholeChars n) = some (.number (.whole n), []) := by
  simp only [wholeChars]
  split
  · refine numberFrom_digitChars true _ _ ?_
    have hne : n ≠ 0 := by omega
    have hsize : n.natAbs ≤ 0x8000000000000000 := by omega
    have hvalue : -(n.natAbs : ℤ) = n := by omega
    simp only [number?, digitsValue_digitChars, hsize, hvalue]
    simp [hne]
  · rw [numberValue_digitChars]
    refine numberFrom_digitChars false _ _ ?_
    have hsize : n.natAbs < UInt64.size := by omega
    have hvalue : (n.natAbs : ℤ) = n := by omega
    simp only [number?, digitsValue_digitChars, hsize, hvalue]
    simp

end Numbers

section Strings

lemma unit?_control : ∀ n < 0x20,
    unit? '0' '0' (Nat.digitChar (n / 16)) (Nat.digitChar (n % 16)) = some n := by
  decide

lemma stringBody_control (c : Char) (s : List Char) (hcontrol : c.toNat < 0x20) :
    stringBody ('\\' :: 'u' :: '0' :: '0' :: Nat.digitChar (c.toNat / 16) ::
        Nat.digitChar (c.toNat % 16) :: s) =
      (stringBody s).map fun found => (c :: found.1, found.2) := by
  have hlow : isLowSurrogate c.toNat = false := by simp [isLowSurrogate]; omega
  have hhigh : isHighSurrogate c.toNat = false := by simp [isHighSurrogate]; omega
  simp [stringBody, unit?_control _ hcontrol, hlow, hhigh]

lemma stringBody_plain (c : Char) (s : List Char) (hquote : c ≠ '"') (hback : c ≠ '\\')
    (hcontrol : ¬c.toNat < 0x20) :
    stringBody (c :: s) = (stringBody s).map fun found => (c :: found.1, found.2) := by
  have hplain : ¬(c = '\\' ∨ c.toNat < 0x20) := not_or.mpr ⟨hback, hcontrol⟩
  rw [stringBody, if_neg hplain]
  all_goals simp_all

lemma stringBody_escapedChar (c : Char) (s : List Char) :
    stringBody (escapedChar c ++ s) =
      (stringBody s).map fun found => (c :: found.1, found.2) := by
  simp only [escapedChar]
  split_ifs with hquote hback _ _ _ _ _ hcontrol
  on_goal 8 => exact stringBody_control c s hcontrol
  on_goal 8 => exact stringBody_plain c s hquote hback hcontrol
  all_goals
    subst_vars
    simp [stringBody, escaped?]

lemma stringBody_flatMap (chars rest : List Char) :
    stringBody (chars.flatMap escapedChar ++ '"' :: rest) = some (chars, rest) := by
  induction chars with
  | nil => simp [stringBody]
  | cons c chars ih =>
    rw [List.flatMap_cons, List.append_assoc, stringBody_escapedChar, ih]
    rfl

lemma memberKey_stringChars (key : String) (s : List Char) :
    memberKey (stringChars key ++ ':' :: s) = some (key, s) := by
  have hbody := stringBody_flatMap key.toList (':' :: s)
  simp [memberKey, stringChars, skipSpaces, isSpace, hbody]

end Strings

variable {decimal? : DecimalReader}

def Legible (decimal? : DecimalReader) : Number → Prop
  | .whole n => -0x8000000000000000 ≤ n ∧ n < UInt64.size
  | .pointed x => numberValue decimal? x.compact = some (.number (.pointed x), [])

lemma numberValue_numberChars (n : Number) (h : Legible decimal? n) :
    numberValue decimal? (numberChars n) = some (.number n, []) := by
  cases n with
  | whole n => exact numberValue_whole n h.1 h.2
  | pointed x => exact h

lemma numberValue_head (s : List Char) (found : Json × List Char)
    (h : numberValue decimal? s = some found) :
    ∃ c t, s = c :: t ∧ (c = '-' ∨ c.isDigit = true) ∧ isSpace c = false := by
  cases s with
  | nil => simp [numberValue, numberFrom, wholeDigits?, leadingDigits] at h
  | cons c t =>
    have hc : c = '-' ∨ c.isDigit = true := by
      by_contra hnot
      obtain ⟨hminus, hdigit⟩ := not_or.mp hnot
      simp [numberValue, hminus, numberFrom, wholeDigits?, leadingDigits, hdigit] at h
    refine ⟨c, t, rfl, hc, ?_⟩
    by_contra hspace
    simp only [isSpace, Bool.not_eq_false, Bool.or_eq_true, beq_iff_eq] at hspace
    rcases hspace with ((rfl | rfl) | rfl) | rfl <;> simp at hc

lemma valueFrom_of_numberValue (fuel room : ℕ) (s : List Char) (found : Json × List Char)
    (h : numberValue decimal? s = some found) :
    valueFrom decimal? (fuel + 1) room s = some found := by
  obtain ⟨c, t, rfl, hc, hspace⟩ := numberValue_head s found h
  have hskip : skipSpaces (c :: t) = c :: t := by simp [skipSpaces, hspace]
  simp only [valueFrom, hskip]
  split <;> simp_all

end ContentHub.Json
