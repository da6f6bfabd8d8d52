import ContentHub.Json.Relaxed
import ContentHub.Proofs.Json.Escapes
import ContentHub.Proofs.Json.Tokens
import ContentHub.Proofs.Text.Letters
import Mathlib.Tactic

namespace ContentHub.Json

namespace Escapes

lemma fresh_nil : Fresh [] := by
  simp [Fresh]

lemma fresh_cons {b : UInt8} (h : b.toNat / 64 ≠ 2) (rest : List UInt8) : Fresh (b :: rest) := by
  simpa [Fresh] using h

lemma fresh_utf8EncodeChar (c : Char) (rest : List UInt8) :
    Fresh (String.utf8EncodeChar c ++ rest) := by
  rcases utf8EncodeChar_cases c with ⟨hc, hchar⟩ | ⟨-, b, tail, hchar, hwide⟩
  · rw [hchar, List.singleton_append]
    apply fresh_cons
    rw [UInt8.toNat_ofNat']
    omega
  · rw [hchar, List.cons_append]
    apply fresh_cons
    have := hwide.lead
    omega

lemma fresh_utf8 (text : List Char) : Fresh (text.flatMap String.utf8EncodeChar) := by
  cases text with
  | nil => exact fresh_nil
  | cons c text => exact fresh_utf8EncodeChar c _

lemma readPlain_utf8EncodeChar (c : Char) {rest : List UInt8} (h : Fresh rest) :
    readPlain (String.utf8EncodeChar c ++ rest) = (c.toNat, rest) := by
  rcases utf8EncodeChar_cases c with ⟨hc, hchar⟩ | ⟨-, b, tail, hchar, hwide⟩
  · rw [hchar, List.singleton_append, readPlain_ofNat _ _ (by omega), if_pos (by omega)]
  · rw [hchar]
    exact hwide.exact rest h

lemma head_utf8EncodeChar (c : Char) (hc : c ≠ '\\') :
    ∃ b tail, String.utf8EncodeChar c = b :: tail ∧ b ≠ 0x5C := by
  rcases utf8EncodeChar_cases c with ⟨hlow, hchar⟩ | ⟨-, b, tail, hchar, hwide⟩
  · refine ⟨_, _, hchar, fun hb => hc (Char.toNat_inj.mp ?_)⟩
    have hbyte := congrArg UInt8.toNat hb
    rw [UInt8.toNat_ofNat'] at hbyte
    simp at hbyte ⊢
    omega
  · refine ⟨b, tail, hchar, ?_⟩
    rintro rfl
    have := hwide.lead
    simp at this

lemma readCode_plain (c : Char) (hc : c ≠ '\\') {rest : List UInt8} (h : Fresh rest) :
    readCode (String.utf8EncodeChar c ++ rest) = (c.toNat, rest) := by
  have hread := readPlain_utf8EncodeChar c h
  obtain ⟨b, tail, hchar, hb⟩ := head_utf8EncodeChar c hc
  rw [hchar, List.cons_append] at hread ⊢
  simp [readCode, skipLineEnds, hb, hread]

lemma digitCodes_control : ∀ n < 0x20,
    digitCodes [0x30, 0x30, UInt8.ofNat (Nat.digitChar (n / 16)).toNat,
      UInt8.ofNat (Nat.digitChar (n % 16)).toNat] = n := by
  decide

lemma utf8_control : ∀ n < 0x20,
    ['\\', 'u', '0', '0', Nat.digitChar (n / 16), Nat.digitChar (n % 16)].flatMap
        String.utf8EncodeChar =
      [0x5C, 0x75, 0x30, 0x30, UInt8.ofNat (Nat.digitChar (n / 16)).toNat,
        UInt8.ofNat (Nat.digitChar (n % 16)).toNat] := by
  decide

lemma readUnit_control (n : ℕ) (h : n < 0x20) (rest : List UInt8) :
    readUnit (0x30 :: 0x30 :: UInt8.ofNat (Nat.digitChar (n / 16)).toNat ::
      UInt8.ofNat (Nat.digitChar (n % 16)).toNat :: rest) = (n, rest) := by
  have hlow : isHighSurrogate n = false := by
    simp [isHighSurrogate]
    omega
  simp only [readUnit, digitCodes_control n h, hlow, Bool.false_and, Bool.false_eq_true, if_false]
  split <;> rfl

lemma readCode_escapedChar (c : Char) {rest : List UInt8} (h : Fresh rest) :
    readCode ((escapedChar c).flatMap String.utf8EncodeChar ++ rest) = (c.toNat, rest) := by
  simp only [escapedChar]
  split_ifs with hquote hback _ _ _ _ _ hcontrol
  on_goal 8 =>
    rw [utf8_control c.toNat hcontrol]
    simp [readCode, skipLineEnds, readEscape, readUnit_control c.toNat hcontrol rest]
  on_goal 8 =>
    rw [List.flatMap_singleton]
    exact readCode_plain c hback h
  all_goals
    subst_vars
    rfl

lemma fresh_escaped (text : List Char) :
    Fresh ((text.flatMap escapedChar).flatMap String.utf8EncodeChar) :=
  fresh_utf8 _

lemma utf8_escapedChar_ne_nil (c : Char) :
    (escapedChar c).flatMap String.utf8EncodeChar ≠ [] := by
  have hchar : escapedChar c ≠ [] := by
    simp only [escapedChar]
    split_ifs <;> simp
  obtain ⟨first, rest, hfirst⟩ := List.exists_cons_of_ne_nil hchar
  simp [hfirst, String.utf8EncodeChar_ne_nil]

lemma codesFrom_escaped (text : List Char) (fuel : ℕ) (h : text.length ≤ fuel) :
    codesFrom fuel ((text.flatMap escapedChar).flatMap String.utf8EncodeChar) =
      text.map Char.toNat := by
  induction text generalizing fuel with
  | nil => cases fuel <;> rfl
  | cons c text ih =>
    obtain ⟨fuel, rfl⟩ : ∃ less, fuel = less + 1 :=
      Nat.exists_eq_add_one.mpr (Nat.lt_of_lt_of_le (Nat.succ_pos _) h)
    have hread := readCode_escapedChar c (fresh_escaped text)
    have hrest := ih fuel (Nat.le_of_succ_le_succ h)
    obtain ⟨b, tail, hchar⟩ := List.exists_cons_of_ne_nil (utf8_escapedChar_ne_nil c)
    rw [hchar, List.cons_append] at hread
    simp only [List.flatMap_cons, List.flatMap_append, hchar, List.cons_append, codesFrom, hread,
      hrest, List.map_cons]

lemma length_le_escaped (text : List Char) :
    text.length ≤ ((text.flatMap escapedChar).flatMap String.utf8EncodeChar).length := by
  induction text with
  | nil => exact Nat.zero_le _
  | cons c text ih =>
    have hchar := List.length_pos_iff.mpr (utf8_escapedChar_ne_nil c)
    simp only [List.flatMap_cons, List.flatMap_append, List.length_append, List.length_cons]
    omega

end Escapes

lemma escapedChar_cases (c : Char) : escapedChar c = [c] ∨ '\\' ∈ escapedChar c := by
  simp only [escapedChar]
  split_ifs <;> simp

lemma codes_escaped (text : List Char) :
    codes (text.flatMap escapedChar) = text.map Char.toNat := by
  by_cases hslash : '\\' ∈ text.flatMap escapedChar
  · simp only [codes, List.contains_iff_mem, hslash, if_true, Escapes.ofBytes]
    exact Escapes.codesFrom_escaped text _ (Escapes.length_le_escaped text)
  · have hplain : text.flatMap escapedChar = text := by
      have hchars : ∀ c ∈ text, escapedChar c = [c] := fun c hc =>
        (escapedChar_cases c).resolve_right fun hmem =>
          hslash (List.mem_flatMap.mpr ⟨c, hc, hmem⟩)
      rw [List.flatMap_congr hchars, List.flatMap_singleton']
    rw [hplain] at hslash ⊢
    simp [codes, hslash]

namespace Relaxed

lemma stringBody_plain (c : Char) (s : List Char) (hquote : c ≠ '"') (hback : c ≠ '\\')
    (hcontrol : ¬c.toNat < 0x20) :
    stringBody '"' (c :: s) = (stringBody '"' s).map fun found => (c :: found.1, found.2) := by
  have hplain : ¬(c = '\\' ∨ c.toNat < 0x20) := not_or.mpr ⟨hback, hcontrol⟩
  rw [stringBody, if_neg hquote, if_neg hplain]
  all_goals simp_all

lemma isHex_control : ∀ n < 0x20,
    (['0', '0', Nat.digitChar (n / 16), Nat.digitChar (n % 16)].all isHex) = true := by
  decide

lemma stringBody_escapedChar (c : Char) (s : List Char) :
    stringBody '"' (escapedChar c ++ s) =
      (stringBody '"' s).map fun found => (escapedChar c ++ found.1, found.2) := by
  simp only [escapedChar]
  split_ifs with hquote hback _ _ _ _ _ hcontrol
  on_goal 8 => simp [stringBody, isHex_control c.toNat hcontrol]
  on_goal 8 => exact stringBody_plain c s hquote hback hcontrol
  all_goals
    subst_vars
    simp [stringBody, isEscapable, escaped?]

lemma stringBody_escaped (text rest : List Char) :
    stringBody '"' (text.flatMap escapedChar ++ '"' :: rest) =
      some (text.flatMap escapedChar, rest) := by
  induction text with
  | nil => simp [stringBody]
  | cons c text ih =>
    rw [List.flatMap_cons, List.append_assoc, stringBody_escapedChar, ih]
    rfl

lemma stringCodes_escaped (text rest : List Char) :
    stringCodes '"' (text.flatMap escapedChar ++ '"' :: rest) =
      some (text.map Char.toNat, rest) := by
  rw [stringCodes, stringBody_escaped, Option.map_some, codes_escaped]

section Numbers

variable {rest : List Char}

def NoDigit (s : List Char) : Prop :=
  ∀ c ∈ s.head?, c.isDigit = false

structure Leading (before : List Char) : Prop where
  filled : before ≠ []
  digits : ∀ c ∈ before, c.isDigit = true
  zero : before = ['0'] ∨ before.head? ≠ some '0'

lemma noDigit_closed (h : Closed rest) : NoDigit rest := by
  cases h <;> simp [NoDigit]

lemma noDigit_cons {c : Char} (h : c.isDigit = false) (s : List Char) : NoDigit (c :: s) := by
  simpa [NoDigit] using h

lemma takeWhile_digits {digits tail : List Char} (h : ∀ c ∈ digits, c.isDigit = true)
    (htail : NoDigit tail) :
    (digits ++ tail).takeWhile Char.isDigit = digits ∧
      (digits ++ tail).dropWhile Char.isDigit = tail := by
  have hnone : tail.takeWhile Char.isDigit = [] ∧ tail.dropWhile Char.isDigit = tail := by
    cases tail with
    | nil => exact ⟨rfl, rfl⟩
    | cons c tail =>
      have hc : c.isDigit = false := htail c rfl
      simp [hc]
  rw [List.takeWhile_append_of_pos h, List.dropWhile_append_of_pos h, hnone.1, hnone.2]
  simp

lemma afterNumber?_point {before : List Char} (h : Leading before) (behind : List Char) :
    afterNumber? (before ++ '.' :: behind) = afterExponent? (behind.dropWhile Char.isDigit) := by
  have hend : NoDigit ('.' :: behind) := noDigit_cons (by decide) behind
  obtain ⟨htake, hdrop⟩ := takeWhile_digits h.digits hend
  obtain ⟨d, more, rfl⟩ := List.exists_cons_of_ne_nil h.filled
  have hzero := h.zero
  simp only [afterNumber?, htake, hdrop]
  cases more with
  | nil => split <;> simp_all
  | cons e more => split <;> simp_all

lemma afterNumber?_plain {before tail : List Char} (h : Leading before) (htail : NoDigit tail)
    (hpoint : ∀ c ∈ tail.head?, c ∉ ['.', 'x', 'X']) :
    afterNumber? (before ++ tail) = afterExponent? tail := by
  obtain ⟨htake, hdrop⟩ := takeWhile_digits h.digits htail
  obtain ⟨d, more, rfl⟩ := List.exists_cons_of_ne_nil h.filled
  have hzero := h.zero
  simp only [afterNumber?, htake, hdrop]
  cases more with
  | nil => split <;> simp_all
  | cons e more => split <;> simp_all

lemma afterExponent?_closed (h : Closed rest) : afterExponent? rest = some rest := by
  cases h <;> simp [afterExponent?]

lemma leading_digitChars (n : ℕ) : Leading (Decimal.digitChars n) where
  filled := Nat.toDigits_ne_nil
  digits := isDigit_of_mem_digitChars n
  zero := by
    rcases Nat.eq_zero_or_pos n with rfl | hn
    · exact Or.inl rfl
    · exact Or.inr (head?_digitChars n hn)

lemma afterExponent?_exponentChars (h : Closed rest) (e : ℤ) :
    afterExponent? ('e' :: (Decimal.exponentChars e ++ rest)) = some rest := by
  obtain ⟨hfilled, hdigits, -⟩ := leading_digitChars e.natAbs
  obtain ⟨-, hdrop⟩ := takeWhile_digits hdigits (noDigit_closed h)
  obtain ⟨d, more, hmore⟩ := List.exists_cons_of_ne_nil hfilled
  have hd : d.isDigit = true := hdigits d (by simp [hmore])
  rw [hmore, List.cons_append] at hdrop
  simp only [Decimal.exponentChars, hmore]
  split <;> simp [afterExponent?, hd] <;> simpa [hd] using hdrop

structure Unsigned (good : Bool) (s : List Char) : Prop where
  head : ∃ d t, s = d :: t ∧ d.isDigit = true
  read : ∀ rest, Closed rest → afterNumber? (s ++ rest) = bif good then some rest else none

lemma Leading.head {before : List Char} (h : Leading before) (behind : List Char) :
    ∃ d t, before ++ behind = d :: t ∧ d.isDigit = true := by
  obtain ⟨d, more, rfl⟩ := List.exists_cons_of_ne_nil h.filled
  exact ⟨d, more ++ behind, rfl, h.digits d List.mem_cons_self⟩

lemma unsigned_digitChars (n : ℕ) : Unsigned true (Decimal.digitChars n) where
  head := by simpa using (leading_digitChars n).head []
  read rest h := by
    rw [afterNumber?_plain (leading_digitChars n) (noDigit_closed h), afterExponent?_closed h]
    · rfl
    · cases h <;> simp

lemma unsigned_fraction {before after : List Char} (hbefore : Leading before)
    (hafter : ∀ c ∈ after, c.isDigit = true) : Unsigned true (before ++ '.' :: after) where
  head := hbefore.head _
  read rest h := by
    rw [List.append_assoc, List.cons_append, afterNumber?_point hbefore,
      (takeWhile_digits hafter (noDigit_closed h)).2, afterExponent?_closed h]
    rfl

lemma leading_append_zeros (n zeros : ℕ) (h : n = 0 → zeros = 0) :
    Leading (Decimal.digitChars n ++ List.replicate zeros '0') := by
  obtain ⟨hfilled, hdigits, -⟩ := leading_digitChars n
  refine ⟨by simp [hfilled], ?_, ?_⟩
  · intro c hc
    rcases List.mem_append.mp hc with hc | hc
    · exact hdigits c hc
    · rw [List.eq_of_mem_replicate hc]
      rfl
  · rcases Nat.eq_zero_or_pos n with rfl | hn
    · rw [h rfl]
      exact Or.inl rfl
    · rw [List.head?_append_of_ne_nil _ hfilled]
      exact Or.inr (head?_digitChars n hn)

lemma leading_take {before : List Char} (h : Leading before) {n : ℕ} (hn : 0 < n) :
    Leading (before.take n) := by
  obtain ⟨n, rfl⟩ := Nat.exists_eq_add_one.mpr hn
  obtain ⟨hfilled, hdigits, hzero⟩ := h
  obtain ⟨d, more, rfl⟩ := List.exists_cons_of_ne_nil hfilled
  refine ⟨by simp, fun c hc => hdigits c (List.mem_of_mem_take hc), ?_⟩
  rcases hzero with hzero | hzero
  · obtain ⟨rfl, rfl⟩ := List.cons.inj hzero
    exact Or.inl (by simp)
  · exact Or.inr (by simpa using hzero)

lemma unsigned_zeros (zeros : ℕ) (after : List Char) :
    Unsigned false ('0' :: '0' :: List.replicate zeros '0' ++ '.' :: after) where
  head := ⟨'0', _, rfl, by decide⟩
  read rest _ := by
    have hdigits : ∀ c ∈ '0' :: '0' :: List.replicate zeros '0', c.isDigit = true := by
      simp [List.mem_replicate]
    have hend : NoDigit ('.' :: (after ++ rest)) := noDigit_cons (by decide) _
    obtain ⟨htake, hdrop⟩ := takeWhile_digits hdigits hend
    simp only [List.append_assoc, List.cons_append] at htake hdrop ⊢
    simp [afterNumber?, htake, hdrop]

lemma unsigned_positional (x : Decimal) :
    Unsigned (x.digits != 0 || x.exponent ≤ 0) x.unsignedPositional := by
  have hdigits := isDigit_of_mem_digitChars x.digits
  simp only [Decimal.unsignedPositional]
  split_ifs with hwhole hpoint
  · by_cases hzero : x.digits = 0 ∧ 0 < x.exponent
    · obtain ⟨zeros, hzeros⟩ : ∃ zeros, x.exponent.toNat = zeros + 1 :=
        Nat.exists_eq_add_one.mpr (by omega)
      have hbad : (x.digits != 0 || decide (x.exponent ≤ 0)) = false := by
        simp [hzero.1]
        omega
      rw [hbad, hzeros, hzero.1]
      exact unsigned_zeros zeros ['0']
    · have hgood : (x.digits != 0 || decide (x.exponent ≤ 0)) = true := by
        simp only [Bool.or_eq_true, bne_iff_ne, decide_eq_true_eq]
        omega
      rw [hgood]
      have hleading := leading_append_zeros x.digits x.exponent.toNat (by omega)
      exact unsigned_fraction hleading (List.forall_mem_singleton.mpr rfl)
  · have hgood : (x.digits != 0 || decide (x.exponent ≤ 0)) = true := by
      simp only [Bool.or_eq_true, decide_eq_true_eq]
      omega
    have hplaces : 0 < x.pointPosition.toNat := by omega
    rw [hgood]
    exact unsigned_fraction (leading_take (leading_digitChars x.digits) hplaces)
      fun c hc => hdigits c (List.mem_of_mem_drop hc)
  · have hgood : (x.digits != 0 || decide (x.exponent ≤ 0)) = true := by
      simp only [Bool.or_eq_true, decide_eq_true_eq]
      omega
    have hafter : ∀ c ∈ List.replicate (-x.pointPosition).toNat '0' ++
        Decimal.digitChars x.digits, c.isDigit = true := by
      intro c hc
      rcases List.mem_append.mp hc with hc | hc
      · rw [List.eq_of_mem_replicate hc]
        rfl
      · exact hdigits c hc
    rw [hgood]
    simpa [Decimal.digitChars] using unsigned_fraction (leading_digitChars 0) hafter

lemma unsigned_scientific (x : Decimal) : Unsigned true x.unsignedScientific := by
  obtain ⟨hfilled, hdigits, hzero⟩ := leading_digitChars x.digits
  obtain ⟨d, more, hmore⟩ := List.exists_cons_of_ne_nil hfilled
  rw [hmore] at hdigits
  obtain ⟨hd, hrest⟩ := List.forall_mem_cons.mp hdigits
  have hleading : Leading [d] := ⟨by simp, by simpa using hd, by simp; tauto⟩
  simp only [Decimal.unsignedScientific, hmore]
  generalize x.pointPosition - 1 = e
  have hend : ∀ rest, NoDigit ('e' :: (Decimal.exponentChars e ++ rest)) := fun rest =>
    noDigit_cons (by decide) _
  cases more with
  | nil =>
    refine ⟨hleading.head _, fun rest h => ?_⟩
    have hplain := afterNumber?_plain hleading (hend rest) (by simp)
    rw [afterExponent?_exponentChars h] at hplain
    simpa using hplain
  | cons c more =>
    refine ⟨⟨d, _, rfl, hd⟩, fun rest h => ?_⟩
    have hpoint := afterNumber?_point hleading
      ((c :: more) ++ 'e' :: (Decimal.exponentChars e ++ rest))
    rw [(takeWhile_digits hrest (hend rest)).2, afterExponent?_exponentChars h] at hpoint
    simpa using hpoint

lemma isDigit_range {d : Char} (h : d.isDigit = true) : 48 ≤ d.toNat ∧ d.toNat ≤ 57 := by
  have hrange : (d.val ≥ '0'.val ∧ d.val ≤ '9'.val) = (48 ≤ d.toNat ∧ d.toNat ≤ 57) := rfl
  rwa [Char.isDigit, Bool.and_eq_true, decide_eq_true_eq, decide_eq_true_eq, hrange] at h

lemma toLower_of_isDigit {d : Char} (h : d.isDigit = true) : d.toLower = d := by
  have hrange := isDigit_range h
  rw [← Char.toNat_inj, Text.toNat_toLower, if_neg (by omega)]

lemma afterWord?_digit {d a : Char} {word : String} {w : List Char} (hd : d.isDigit = true)
    (hword : word.toList = a :: w) (ha : a.isDigit = false) (s : List Char) :
    afterWord? word (d :: s) = none := by
  have hlength : word.length = w.length + 1 := by
    rw [← String.length_toList, hword, List.length_cons]
  have hne : d ≠ a := by
    rintro rfl
    cases hd.symm.trans ha
  simp [afterWord?, hlength, hword, toLower_of_isDigit hd, hne]

lemma named?_digit {d : Char} (hd : d.isDigit = true) (s : List Char) : named? (d :: s) = none := by
  have hnan : afterWord? "nan" (d :: s) = none := afterWord?_digit hd rfl rfl s
  have hqnan : afterWord? "qnan" (d :: s) = none := afterWord?_digit hd rfl rfl s
  have hsnan : afterWord? "snan" (d :: s) = none := afterWord?_digit hd rfl rfl s
  have hinf : afterWord? "inf" (d :: s) = none := afterWord?_digit hd rfl rfl s
  have hinfinity : afterWord? "infinity" (d :: s) = none := afterWord?_digit hd rfl rfl s
  simp [named?, hnan, hqnan, hsnan, hinf, hinfinity]

lemma afterInfinity?_digit {d : Char} (hd : d.isDigit = true) (s : List Char) :
    afterInfinity? (d :: s) = none := by
  have hne : ('i' == d) = false := by
    rw [beq_eq_false_iff_ne]
    rintro rfl
    cases hd
  simp [afterInfinity?, toLower_of_isDigit hd, List.isPrefixOf, hne]

variable {good : Bool}

lemma plainValue?_unsigned {s : List Char} (hs : Unsigned good s) (h : Closed rest) :
    plainValue? (s ++ rest) = bif good then some (.other, rest) else none := by
  have hread := hs.read rest h
  obtain ⟨d, t, rfl, hd⟩ := hs.head
  rw [List.cons_append] at hread ⊢
  rw [plainValue?, named?_digit hd, hread]
  · cases good <;> rfl
  all_goals
    -- no digit starts a sign or a word
    intro tail htail
    obtain ⟨rfl, -⟩ := List.cons.inj htail
    simp at hd

lemma plainValue?_negative {s : List Char} (hs : Unsigned good s) (h : Closed rest) :
    plainValue? ('-' :: (s ++ rest)) = bif good then some (.other, rest) else none := by
  have hread := hs.read rest h
  obtain ⟨d, t, rfl, hd⟩ := hs.head
  rw [List.cons_append] at hread ⊢
  rw [plainValue?, signedNumber?, afterInfinity?_digit hd, hread]
  cases good <;> rfl

def proper : Number → Bool
  | .whole _ => true
  | .pointed x => x.digits != 0 || x.exponent ≤ 0 || 15 < x.exponent

lemma compact_unsigned (x : Decimal) :
    ∃ s, Unsigned (proper (.pointed x)) s ∧ x.compact = x.signChars ++ s := by
  have hzero : x.digits = 0 → x.pointPosition = 1 + x.exponent := by
    intro hdigits
    simp [Decimal.pointPosition, hdigits, Decimal.digitChars]
  simp only [Decimal.compact, Decimal.positional]
  split
  · refine ⟨x.unsignedPositional, ?_, rfl⟩
    have hsame : proper (.pointed x) = (x.digits != 0 || decide (x.exponent ≤ 0)) := by
      rw [proper, Bool.eq_iff_iff]
      simp only [Bool.or_eq_true, bne_iff_ne, decide_eq_true_eq]
      omega
    rw [hsame]
    exact unsigned_positional x
  · refine ⟨x.unsignedScientific, ?_, rfl⟩
    have hgood : proper (.pointed x) = true := by
      simp only [proper, Bool.or_eq_true, bne_iff_ne, decide_eq_true_eq]
      omega
    rw [hgood]
    exact unsigned_scientific x

lemma numberChars_cases (n : Number) :
    ∃ s, Unsigned (proper n) s ∧ (numberChars n = s ∨ numberChars n = '-' :: s) := by
  cases n with
  | whole n =>
    refine ⟨_, unsigned_digitChars n.natAbs, ?_⟩
    simp only [numberChars, wholeChars]
    split <;> simp
  | pointed x =>
    obtain ⟨s, hs, hcompact⟩ := compact_unsigned x
    refine ⟨s, hs, ?_⟩
    simp only [numberChars, hcompact, Decimal.signChars]
    split <;> simp

lemma plainValue?_numberChars (n : Number) (h : Closed rest) :
    plainValue? (numberChars n ++ rest) = bif proper n then some (.other, rest) else none := by
  obtain ⟨s, hs, hchars | hchars⟩ := numberChars_cases n
  · rw [hchars]
    exact plainValue?_unsigned hs h
  · rw [hchars]
    exact plainValue?_negative hs h

end Numbers

end Relaxed

end ContentHub.Json
