import ContentHub.Text.Basic
import Mathlib.Data.List.Forall2
import Mathlib.Tactic

namespace ContentHub.Text

def Recased (s t : List Char) : Prop :=
  List.Forall₂ (fun c d => d = c ∨ d = c.toLower ∨ d = c.toUpper) s t

lemma toNat_toLower (c : Char) :
    c.toLower.toNat = if 65 ≤ c.toNat ∧ c.toNat ≤ 90 then c.toNat + 32 else c.toNat := by
  have hrange : (c.val ≥ 'A'.val ∧ c.val ≤ 'Z'.val) = (65 ≤ c.toNat ∧ c.toNat ≤ 90) := rfl
  delta Char.toLower
  split
  · next h =>
    rw [hrange] at h
    have hsum : (c.val + ('a'.val - 'A'.val)).toNat = c.toNat + 32 := by
      rw [UInt32.toNat_add, Char.toNat_val]
      exact Nat.mod_eq_of_lt (by simp; omega)
    rw [if_pos h]
    exact hsum
  · next h =>
    rw [hrange] at h
    rw [if_neg h]

lemma toNat_toUpper (c : Char) :
    c.toUpper.toNat = if 97 ≤ c.toNat ∧ c.toNat ≤ 122 then c.toNat - 32 else c.toNat := by
  have hrange : ('a'.val ≤ c.val ∧ c.val ≤ 'z'.val) = (97 ≤ c.toNat ∧ c.toNat ≤ 122) := rfl
  delta Char.toUpper
  split
  · next h =>
    rw [hrange] at h
    have hsum : (c.val + ('A'.val - 'a'.val)).toNat = c.toNat - 32 := by
      -- the difference of the letters is negative, so the sum wraps around
      rw [UInt32.toNat_add, Char.toNat_val]
      simp
      omega
    rw [if_pos h]
    exact hsum
  · next h =>
    rw [hrange] at h
    rw [if_neg h]

lemma toLower_eq_toLower_iff (c d : Char) :
    c.toLower = d.toLower ↔ d = c ∨ d = c.toLower ∨ d = c.toUpper := by
  simp only [← Char.toNat_inj, toNat_toLower, toNat_toUpper]
  split_ifs <;> omega

lemma recased_iff (s t : List Char) : Recased s t ↔ s.map Char.toLower = t.map Char.toLower := by
  simp only [Recased, ← toLower_eq_toLower_iff]
  rw [← List.forall₂_eq_eq_eq, List.forall₂_map_left_iff, List.forall₂_map_right_iff]

lemma Recased.exists_mem {s t : List Char} (h : Recased s t) {d : Char} (hd : d ∈ t) :
    ∃ c ∈ s, d = c ∨ d = c.toLower ∨ d = c.toUpper := by
  have hlower : d.toLower ∈ s.map Char.toLower := by
    rw [(recased_iff s t).mp h]
    exact List.mem_map_of_mem hd
  obtain ⟨c, hc, hcd⟩ := List.mem_map.mp hlower
  exact ⟨c, hc, (toLower_eq_toLower_iff c d).mp hcd⟩

lemma sameLetters_iff (a b : String) : sameLetters a b = true ↔ Recased a.toList b.toList := by
  rw [sameLetters, beq_iff_eq, lower, lower, recased_iff, String.ofList_inj]

end ContentHub.Text
