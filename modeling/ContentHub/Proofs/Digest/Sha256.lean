import ContentHub.Provider.Password
import Mathlib.Tactic

namespace ContentHub.Digest.Sha256

def digest (message : List UInt8) : List UInt32 :=
  let r := (blocks (padded message)).foldl compress initial
  [r.a, r.b, r.c, r.d, r.e, r.f, r.g, r.h]

def Collide (message other : List UInt8) : Prop :=
  message ≠ other ∧ digest message = digest other

lemma hex_eq (message : List UInt8) :
    hex message = String.ofList ((digest message).flatMap hexWord) := rfl

lemma exists_digit (message : List UInt8) :
    ∀ c ∈ (hex message).toList, ∃ n < 16, c = Nat.digitChar n := by
  intro c hc
  rw [hex_eq, String.toList_ofList] at hc
  obtain ⟨word, -, hword⟩ := List.mem_flatMap.mp hc
  obtain ⟨shift, -, rfl⟩ := List.mem_map.mp hword
  exact ⟨_, Nat.mod_lt _ (by decide), rfl⟩

lemma digitChar_inj : ∀ n < 16, ∀ m < 16, Nat.digitChar n = Nat.digitChar m → n = m := by decide

lemma eq_of_sixteenths (k : ℕ) {n m : ℕ} (hn : n < 16 ^ k) (hm : m < 16 ^ k)
    (h : ∀ i < k, n / 16 ^ i % 16 = m / 16 ^ i % 16) : n = m := by
  induction k generalizing n m with
  | zero => simp_all
  | succ k ih =>
    rw [pow_succ] at hn hm
    -- the further digits are those of the sixteenth part
    have hlast : n % 16 = m % 16 := by simpa using h 0 (Nat.succ_pos k)
    have hfront : n / 16 = m / 16 := by
      refine ih (by omega) (by omega) fun i hi => ?_
      simpa only [Nat.div_div_eq_div_mul, ← pow_succ'] using h (i + 1) (Nat.succ_lt_succ hi)
    omega

lemma hexWord_injective : Function.Injective hexWord := by
  intro word other h
  refine UInt32.toNat_inj.mp (eq_of_sixteenths 8 word.toNat_lt other.toNat_lt fun i hi => ?_)
  have hshift : 4 * i ∈ [28, 24, 20, 16, 12, 8, 4, 0] := by
    revert i
    decide
  have hdigit := digitChar_inj _ (Nat.mod_lt _ (by decide)) _ (Nat.mod_lt _ (by decide))
    (List.map_inj_left.mp h (4 * i) hshift)
  simpa only [Nat.shiftRight_eq_div_pow, pow_mul, Nat.reducePow] using hdigit

lemma flatMap_hexWord_injective : Function.Injective (List.flatMap hexWord) := by
  intro words others h
  induction words generalizing others with
  | nil => cases others <;> simp_all [hexWord]
  | cons word rest ih =>
    cases others with
    | nil => simp [hexWord] at h
    | cons other others =>
      rw [List.flatMap_cons, List.flatMap_cons] at h
      obtain ⟨hword, hrest⟩ := List.append_inj h rfl
      rw [hexWord_injective hword, ih hrest]

lemma hex_eq_hex_iff (message other : List UInt8) :
    hex message = hex other ↔ message = other ∨ Collide message other := by
  have hdigest : hex message = hex other ↔ digest message = digest other := by
    rw [hex_eq, hex_eq, String.ofList_inj]
    exact flatMap_hexWord_injective.eq_iff
  rw [hdigest, Collide]
  constructor
  · intro h
    by_cases hsame : message = other
    · exact Or.inl hsame
    · exact Or.inr ⟨hsame, h⟩
  · rintro (rfl | ⟨-, h⟩)
    · rfl
    · exact h

end ContentHub.Digest.Sha256
