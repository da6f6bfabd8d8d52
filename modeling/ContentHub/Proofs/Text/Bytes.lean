import Mathlib.Tactic

namespace ContentHub.Text

def bytes (s : String) : List UInt8 :=
  s.toUTF8.data.toList

/-- Bytes for numbers below a limit that compare like the numbers, whatever follows. -/
def Ascending (limit : ℕ) (bytesOf : ℕ → List UInt8) : Prop :=
  ∀ n m, n < m → m < limit → ∀ s t, bytesOf n ++ s < bytesOf m ++ t

lemma bytes_eq_flatMap (s : String) : bytes s = s.toList.flatMap String.utf8EncodeChar := by
  rw [bytes, String.toUTF8_eq_toByteArray, ← String.utf8Encode_toList, List.utf8Encode,
    List.toList_data_toByteArray]

lemma cons_lt_of_lead {x y : ℕ} (h : x < y) (hy : y < 256) (s t : List UInt8) :
    UInt8.ofNat x :: s < UInt8.ofNat y :: t := by
  apply List.cons_lt_cons_iff.mpr
  left
  rw [UInt8.lt_iff_toNat_lt, UInt8.toNat_ofNat_of_lt' (h.trans hy), UInt8.toNat_ofNat_of_lt' hy]
  exact h

lemma ascending_lead (room base : ℕ) (h : room + base ≤ 256) :
    Ascending room fun n => [UInt8.ofNat (n % room + base)] := by
  intro n m hlt hm s t
  simp only [Nat.mod_eq_of_lt (hlt.trans hm), Nat.mod_eq_of_lt hm]
  exact cons_lt_of_lead (by omega) (by omega) s t

lemma Ascending.low {limit : ℕ} {bytesOf : ℕ → List UInt8} (h : Ascending limit bytesOf) :
    Ascending (limit * 64) fun n => bytesOf (n / 64) ++ [UInt8.ofNat (n % 64 + 0x80)] := by
  intro n m hlt hm s t
  simp only [List.append_assoc]
  rcases (Nat.div_le_div_right (c := 64) hlt.le).lt_or_eq with hhigh | hhigh
  · exact h _ _ hhigh (by omega) _ _
  · rw [hhigh]
    apply List.append_left_lt
    exact cons_lt_of_lead (by omega) (by omega) s t

lemma utf8EncodeChar_lt {c d : Char} (h : c < d) (s t : List UInt8) :
    String.utf8EncodeChar c ++ s < String.utf8EncodeChar d ++ t := by
  have hlt : c.toNat < d.toNat := h
  have hsize : d.toNat < 0x110000 := by
    rcases d.valid with h | h <;> simp only [Char.toNat, UInt32.toNat] at * <;> omega
  have htwo := (ascending_lead 0x20 0xc0 (by decide)).low
  have hthree := (ascending_lead 0x10 0xe0 (by decide)).low.low
  have hfour := (ascending_lead 0x08 0xf0 (by decide)).low.low.low
  simp only [Nat.div_div_eq_div_mul, List.cons_append, List.nil_append, Nat.reduceMul]
    at htwo hthree hfour
  simp only [String.utf8EncodeChar, Char.toNat_val]
  generalize c.toNat = n at hlt
  generalize d.toNat = m at hlt hsize
  split_ifs <;> try omega
  · exact cons_lt_of_lead hlt (by omega) s t
  · exact cons_lt_of_lead (by omega) (by omega) _ _
  · exact cons_lt_of_lead (by omega) (by omega) _ _
  · exact cons_lt_of_lead (by omega) (by omega) _ _
  · exact htwo n m hlt (by omega) s t
  · exact cons_lt_of_lead (by omega) (by omega) _ _
  · exact cons_lt_of_lead (by omega) (by omega) _ _
  · exact hthree n m hlt (by omega) s t
  · exact cons_lt_of_lead (by omega) (by omega) _ _
  · exact hfour n m hlt (by omega) s t

lemma flatMap_utf8EncodeChar_lt {s t : List Char} (h : s < t) :
    s.flatMap String.utf8EncodeChar < t.flatMap String.utf8EncodeChar := by
  induction h with
  | @nil c t =>
    rw [List.flatMap_nil, List.flatMap_cons]
    obtain ⟨b, rest, hencoded⟩ := List.exists_cons_of_ne_nil (String.utf8EncodeChar_ne_nil (c := c))
    rw [hencoded, List.cons_append]
    exact List.nil_lt_cons _ _
  | cons _ ih =>
    rw [List.flatMap_cons, List.flatMap_cons]
    exact List.append_left_lt ih
  | rel h =>
    rw [List.flatMap_cons, List.flatMap_cons]
    exact utf8EncodeChar_lt h _ _

lemma bytes_lt_of_lt {s t : String} (h : s < t) : bytes s < bytes t := by
  rw [bytes_eq_flatMap, bytes_eq_flatMap]
  exact flatMap_utf8EncodeChar_lt h

lemma bytes_le_iff (s t : String) : bytes s ≤ bytes t ↔ s ≤ t := by
  constructor
  · intro hle
    by_contra hnot
    exact hle (bytes_lt_of_lt (String.not_le.mp hnot))
  · intro hle hlt
    by_cases hge : t ≤ s
    · rw [String.le_antisymm hle hge] at hlt
      exact List.lt_irrefl _ hlt
    · exact List.lt_asymm hlt (bytes_lt_of_lt (String.not_le.mp hge))

lemma bytes_inj {s t : String} : bytes s = bytes t ↔ s = t := by
  rw [bytes, bytes, Array.toList_inj, ← ByteArray.ext_iff]
  exact String.toByteArray_inj

end ContentHub.Text
