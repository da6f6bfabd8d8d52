import ContentHub.Text.Natural
import Mathlib.Tactic

namespace ContentHub.Text

def unsigned : List Char → List Char
  | '+' :: rest => rest
  | s => s

structure Denotes (s : List Char) (n : ℕ) : Prop where
  some : unsigned s ≠ []
  digits : ∀ c ∈ unsigned s, c.isDigit = true
  value : Nat.ofDigitChars 10 (unsigned s) 0 = n

lemma le_ofDigitChars (s : List Char) (value : ℕ) : value ≤ Nat.ofDigitChars 10 s value := by
  induction s generalizing value with
  | nil => simp
  | cons c rest ih =>
    rw [Nat.ofDigitChars_cons]
    exact le_trans (by omega) (ih _)

lemma ofDigitChars_cons_digit (c : Char) (s : List Char) (value : ℕ) :
    Nat.ofDigitChars 10 (c :: s) value =
      Nat.ofDigitChars 10 s (value * 10 + (c.toNat - '0'.toNat)) := by
  rw [Nat.ofDigitChars_cons, Nat.mul_comm]

lemma readDigits_of_digit {limit value : ℕ} {c : Char} (hc : c.isDigit = true) (s : List Char) :
    readDigits limit value (c :: s) =
      if value * 10 + (c.toNat - '0'.toNat) < limit then
        readDigits limit (value * 10 + (c.toNat - '0'.toNat)) s
      else .error .tooLarge := by
  simp only [readDigits, digit?, hc, if_true]

lemma readDigits_of_not_digit {limit value : ℕ} {c : Char} (hc : c.isDigit = false)
    (s : List Char) : readDigits limit value (c :: s) = .error .invalidDigit := by
  simp [readDigits, digit?, hc]

lemma readDigits_eq_ok {limit value : ℕ} (hvalue : value < limit) (s : List Char) (n : ℕ) :
    readDigits limit value s = .ok n ↔
      (∀ c ∈ s, c.isDigit = true) ∧ Nat.ofDigitChars 10 s value = n ∧ n < limit := by
  induction s generalizing value with
  | nil =>
    simp only [readDigits, Nat.ofDigitChars_nil, Except.ok.injEq, List.not_mem_nil, false_implies,
      implies_true, true_and]
    constructor
    · rintro rfl
      exact ⟨rfl, hvalue⟩
    · exact And.left
  | cons c rest ih =>
    rw [ofDigitChars_cons_digit, List.forall_mem_cons]
    cases hc : c.isDigit with
    | false => simp [readDigits_of_not_digit hc]
    | true =>
      rw [readDigits_of_digit hc]
      simp only [true_and]
      split
      · next hnext => exact ih hnext
      · next hnext =>
        have hle := le_ofDigitChars rest (value * 10 + (c.toNat - '0'.toNat))
        constructor
        · intro h
          cases h
        · rintro ⟨-, hn, hlimit⟩
          omega

lemma readNatural_of_unsigned (limit : ℕ) (s : List Char) (h : unsigned s ≠ []) :
    readNatural limit s = readDigits limit 0 (unsigned s) := by
  unfold unsigned at h ⊢
  split at h
  · next rest => cases rest <;> simp_all [readNatural]
  · next hplus =>
    unfold readNatural
    split <;> simp_all

lemma readNatural_of_unsigned_nil (limit : ℕ) (s : List Char) (h : unsigned s = []) :
    ∃ fault, readNatural limit s = .error fault := by
  unfold unsigned at h
  split at h
  · exact ⟨.invalidDigit, by rw [h, readNatural]⟩
  · exact ⟨.empty, by rw [h, readNatural]⟩

lemma readNatural_eq_ok {limit : ℕ} (hlimit : 0 < limit) (s : List Char) (n : ℕ) :
    readNatural limit s = .ok n ↔ Denotes s n ∧ n < limit := by
  by_cases hsome : unsigned s = []
  · obtain ⟨fault, hfault⟩ := readNatural_of_unsigned_nil limit s hsome
    rw [hfault]
    constructor
    · intro h
      cases h
    · rintro ⟨h, -⟩
      exact absurd hsome h.some
  · rw [readNatural_of_unsigned limit s hsome, readDigits_eq_ok hlimit]
    constructor
    · rintro ⟨hdigits, hvalue, hn⟩
      exact ⟨⟨hsome, hdigits, hvalue⟩, hn⟩
    · rintro ⟨h, hn⟩
      exact ⟨h.digits, h.value, hn⟩

lemma readWord_eq_ok (s : String) (n : UInt32) :
    readWord s = .ok n ↔ Denotes s.toList n.toNat := by
  have hsize : 0 < UInt32.size := by decide
  simp only [readWord]
  cases hread : readNatural UInt32.size s.toList with
  | error fault =>
    have hnone := mt (readNatural_eq_ok hsize s.toList n.toNat).mpr (by simp [hread])
    simp only [Except.map, reduceCtorEq, false_iff]
    exact fun h => hnone ⟨h, n.toNat_lt⟩
  | ok m =>
    obtain ⟨hdenotes, hm⟩ := (readNatural_eq_ok hsize s.toList m).mp hread
    simp only [Except.map, Except.ok.injEq]
    constructor
    · rintro rfl
      rwa [UInt32.toNat_ofNat_of_lt' hm]
    · intro h
      rw [← hdenotes.value, h.value, UInt32.ofNat_toNat]

def Overflows (limit : ℕ) (s : List Char) : Prop :=
  ∃ front, front <+: unsigned s ∧ (∀ c ∈ front, c.isDigit = true) ∧
    limit ≤ Nat.ofDigitChars 10 front 0

def Stops (limit : ℕ) (s : List Char) : Prop :=
  ∃ front c rest, unsigned s = front ++ c :: rest ∧ (∀ d ∈ front, d.isDigit = true) ∧
    Nat.ofDigitChars 10 front 0 < limit ∧ c.isDigit = false

lemma readDigits_ne_empty (limit value : ℕ) (s : List Char) :
    readDigits limit value s ≠ .error .empty := by
  induction s generalizing value with
  | nil => simp [readDigits]
  | cons c rest ih =>
    cases hc : c.isDigit with
    | false => simp [readDigits_of_not_digit hc]
    | true =>
      rw [readDigits_of_digit hc]
      split
      · exact ih _
      · simp

lemma readDigits_eq_tooLarge {limit value : ℕ} (hvalue : value < limit) (s : List Char) :
    readDigits limit value s = .error .tooLarge ↔
      ∃ front, front <+: s ∧ (∀ c ∈ front, c.isDigit = true) ∧
        limit ≤ Nat.ofDigitChars 10 front value := by
  induction s generalizing value with
  | nil =>
    simp only [readDigits, reduceCtorEq, List.prefix_nil, false_iff]
    rintro ⟨front, rfl, -, hlimit⟩
    rw [Nat.ofDigitChars_nil] at hlimit
    omega
  | cons c rest ih =>
    cases hc : c.isDigit with
    | false =>
      simp only [readDigits_of_not_digit hc, Except.error.injEq, reduceCtorEq, false_iff]
      rintro ⟨front, hfront, hdigits, hlimit⟩
      rcases List.prefix_cons_iff.mp hfront with rfl | ⟨later, rfl, -⟩
      · rw [Nat.ofDigitChars_nil] at hlimit
        omega
      · exact absurd (hdigits c List.mem_cons_self) (by simp [hc])
    | true =>
      rw [readDigits_of_digit hc]
      split
      · next hnext =>
        rw [ih hnext]
        constructor
        · rintro ⟨front, hfront, hdigits, hlimit⟩
          refine ⟨c :: front, List.cons_prefix_cons.mpr ⟨rfl, hfront⟩,
            List.forall_mem_cons.mpr ⟨hc, hdigits⟩, ?_⟩
          rwa [ofDigitChars_cons_digit]
        · rintro ⟨front, hfront, hdigits, hlimit⟩
          rcases List.prefix_cons_iff.mp hfront with rfl | ⟨later, rfl, hlater⟩
          · rw [Nat.ofDigitChars_nil] at hlimit
            omega
          · rw [ofDigitChars_cons_digit] at hlimit
            exact ⟨later, hlater, (List.forall_mem_cons.mp hdigits).2, hlimit⟩
      · next hnext =>
        simp only [true_iff]
        refine ⟨[c], by simp, by simpa using hc, ?_⟩
        rw [ofDigitChars_cons_digit, Nat.ofDigitChars_nil]
        omega

lemma readDigits_eq_invalidDigit {limit value : ℕ} (hvalue : value < limit) (s : List Char) :
    readDigits limit value s = .error .invalidDigit ↔
      ∃ front c rest, s = front ++ c :: rest ∧ (∀ d ∈ front, d.isDigit = true) ∧
        Nat.ofDigitChars 10 front value < limit ∧ c.isDigit = false := by
  induction s generalizing value with
  | nil => simp [readDigits]
  | cons c rest ih =>
    cases hc : c.isDigit with
    | false =>
      simp only [readDigits_of_not_digit hc, true_iff]
      exact ⟨[], c, rest, rfl, List.forall_mem_nil _, by simpa using hvalue, hc⟩
    | true =>
      rw [readDigits_of_digit hc]
      constructor
      · split
        · next hnext =>
          rw [ih hnext]
          rintro ⟨front, d, later, rfl, hdigits, hlimit, hd⟩
          refine ⟨c :: front, d, later, rfl, List.forall_mem_cons.mpr ⟨hc, hdigits⟩, ?_, hd⟩
          rwa [ofDigitChars_cons_digit]
        · simp
      · rintro ⟨front, d, later, hsplit, hdigits, hlimit, hd⟩
        cases front with
        | nil =>
          obtain ⟨rfl, -⟩ := List.cons.inj hsplit
          cases hc.symm.trans hd
        | cons first front =>
          obtain ⟨rfl, rfl⟩ := List.cons.inj hsplit
          rw [ofDigitChars_cons_digit] at hlimit
          have hnext := lt_of_le_of_lt (le_ofDigitChars front _) hlimit
          rw [if_pos hnext, ih hnext]
          exact ⟨front, d, later, rfl, (List.forall_mem_cons.mp hdigits).2, hlimit, hd⟩

lemma unsigned_eq_nil_iff (s : List Char) : unsigned s = [] ↔ s = [] ∨ s = ['+'] := by
  unfold unsigned
  split
  · simp
  · next hplus =>
    refine ⟨Or.inl, ?_⟩
    rintro (h | h)
    · exact h
    · exact absurd h (hplus [])

lemma readNatural_eq_empty (limit : ℕ) (s : List Char) :
    readNatural limit s = .error .empty ↔ s = [] := by
  by_cases hsome : unsigned s = []
  · rcases (unsigned_eq_nil_iff s).mp hsome with rfl | rfl <;> simp [readNatural]
  · rw [readNatural_of_unsigned limit s hsome]
    simp only [readDigits_ne_empty, false_iff]
    rintro rfl
    exact hsome rfl

lemma readNatural_eq_tooLarge {limit : ℕ} (hlimit : 0 < limit) (s : List Char) :
    readNatural limit s = .error .tooLarge ↔ Overflows limit s := by
  by_cases hsome : unsigned s = []
  · have hsmall : ¬Overflows limit s := by
      rintro ⟨front, hfront, -, hreached⟩
      rw [hsome, List.prefix_nil] at hfront
      rw [hfront, Nat.ofDigitChars_nil] at hreached
      omega
    rcases (unsigned_eq_nil_iff s).mp hsome with rfl | rfl <;> simp [readNatural, hsmall]
  · rw [readNatural_of_unsigned limit s hsome, readDigits_eq_tooLarge hlimit, Overflows]

lemma readNatural_eq_invalidDigit {limit : ℕ} (hlimit : 0 < limit) (s : List Char) :
    readNatural limit s = .error .invalidDigit ↔ s = ['+'] ∨ Stops limit s := by
  by_cases hsome : unsigned s = []
  · have hnone : ¬Stops limit s := by
      rintro ⟨front, c, rest, hsplit, -⟩
      simp [hsome] at hsplit
    rcases (unsigned_eq_nil_iff s).mp hsome with rfl | rfl <;> simp [readNatural, hnone]
  · rw [readNatural_of_unsigned limit s hsome, readDigits_eq_invalidDigit hlimit, Stops,
      or_iff_right]
    rintro rfl
    exact hsome rfl

lemma stops_iff {limit : ℕ} (hlimit : 0 < limit) (s : List Char) :
    s = ['+'] ∨ Stops limit s ↔
      s ≠ [] ∧ ¬Overflows limit s ∧ ∀ n < limit, ¬Denotes s n := by
  rw [← readNatural_eq_invalidDigit hlimit, ← readNatural_eq_tooLarge hlimit, ne_eq,
    ← readNatural_eq_empty limit]
  have hok : (∀ n < limit, ¬Denotes s n) ↔ ∀ n, readNatural limit s ≠ .ok n := by
    simp only [ne_eq, readNatural_eq_ok hlimit, not_and]
    exact ⟨fun h n hn hlt => h n hlt hn, fun h n hlt hn => h n hn hlt⟩
  rw [hok]
  cases readNatural limit s with
  | ok n => simp
  | error fault => cases fault <;> simp

lemma readWord_eq_error (s : String) (fault : NaturalFault) :
    readWord s = .error fault ↔ readNatural UInt32.size s.toList = .error fault := by
  rw [readWord]
  cases readNatural UInt32.size s.toList <;> simp [Except.map]

lemma denotes_toString (n : ℕ) : Denotes (toString n).toList n := by
  have htext : (toString n).toList = Nat.toDigits 10 n := by
    rw [Nat.toString_eq_ofList_toDigits, String.toList_ofList]
  have hdigits : ∀ c ∈ Nat.toDigits 10 n, c.isDigit = true := fun c hc =>
    Nat.isDigit_of_mem_toDigits (by decide) (by decide) hc
  have hunsigned : unsigned (Nat.toDigits 10 n) = Nat.toDigits 10 n := by
    unfold unsigned
    split
    · next rest heq =>
      rw [heq] at hdigits
      exact absurd (hdigits '+' List.mem_cons_self) (by decide)
    · rfl
  rw [htext]
  refine ⟨?_, ?_, ?_⟩ <;> rw [hunsigned]
  · exact Nat.toDigits_ne_nil
  · exact hdigits
  · exact Nat.ofDigitChars_ten_toDigits

end ContentHub.Text
