import ContentHub.Proofs.Digest.Sha256
import ContentHub.Proofs.Text.Blank
import ContentHub.Proofs.Text.Bytes
import ContentHub.Proofs.Text.Letters
import ContentHub.Proofs.Text.Marked
import ContentHub.Provider.Password
import Mathlib.Tactic

namespace ContentHub.Password

open Digest.Sha256 (Collide exists_digit hex_eq_hex_iff)

def Dressed (text stored : String) : Prop :=
  ∃ lead core trail, stored.toList = lead ++ core ++ trail ∧
    (∀ c ∈ lead, Text.isBlank c = true) ∧ (∀ c ∈ trail, Text.isBlank c = true) ∧
      Text.Recased text.toList core

def Shifts (name password other guess : String) : Prop :=
  ∃ piece, other = name ++ ":" ++ piece ∧ password = piece ++ ":" ++ guess

lemma digit_small : ∀ n < 16, (Nat.digitChar n).toLower = Nat.digitChar n := by decide

lemma digit_notBlank : ∀ n < 16, Text.isBlank (Nat.digitChar n) = false ∧
    Text.isBlank (Nat.digitChar n).toLower = false ∧
      Text.isBlank (Nat.digitChar n).toUpper = false := by decide

lemma map_toLower_hash (name password : String) :
    (hash name password).toList.map Char.toLower = (hash name password).toList := by
  refine (List.map_congr_left fun c hc => ?_).trans (List.map_id _)
  obtain ⟨n, hn, rfl⟩ := exists_digit _ c hc
  exact digit_small n hn

lemma trimmed_of_recased {name password : String} {core : List Char}
    (h : Text.Recased (hash name password).toList core) : Text.Trimmed core := by
  have hcore : ∀ d ∈ core, Text.isBlank d = false := by
    intro d hd
    obtain ⟨c, hc, hcd⟩ := h.exists_mem hd
    obtain ⟨n, hn, rfl⟩ := exists_digit _ c hc
    obtain ⟨hsame, hlower, hupper⟩ := digit_notBlank n hn
    rcases hcd with rfl | rfl | rfl <;> assumption
  exact ⟨fun d hd => hcore d (List.mem_of_mem_head? hd),
    fun d hd => hcore d (List.mem_of_getLast? hd)⟩

lemma check_iff_dressed (name password stored : String) :
    check name password stored = true ↔ Dressed (hash name password) stored := by
  rw [check, Text.sameLetters_iff, Text.trim, String.toList_ofList]
  constructor
  · intro h
    obtain ⟨lead, trail, hstored, hlead, htrail⟩ := (Text.trimsTo_trimChars stored.toList).around
    exact ⟨lead, _, trail, hstored, hlead, htrail, h⟩
  · rintro ⟨lead, core, trail, hstored, hlead, htrail, hcore⟩
    have htrims : Text.TrimsTo stored.toList core :=
      ⟨⟨lead, trail, hstored, hlead, htrail⟩, trimmed_of_recased hcore⟩
    rwa [htrims.trimChars_eq]

lemma dressed_hash (name password : String) :
    Dressed (hash name password) (hash name password) :=
  ⟨[], _, [], by simp, by simp, by simp, (Text.recased_iff _ _).mpr rfl⟩

lemma check_iff_hash_eq {name password stored : String} (h : Dressed (hash name password) stored)
    (other guess : String) :
    check other guess stored = true ↔ hash other guess = hash name password := by
  have hmade : check name password stored = true := (check_iff_dressed _ _ _).mpr h
  -- both hashes are the trimmed text in small letters, as a hash has no others
  rw [check, Text.sameLetters_iff, Text.recased_iff, map_toLower_hash] at hmade
  rw [check, Text.sameLetters_iff, Text.recased_iff, map_toLower_hash, ← hmade, String.toList_inj]

lemma salted_inj {name password other guess : String} :
    salted name password = salted other guess ↔
      name ++ ":" ++ password = other ++ ":" ++ guess := by
  have hbytes (name password : String) :
      salted name password = Text.bytes (name ++ ":" ++ password) := by
    simp [salted, utf8, Text.bytes_eq_flatMap]
  rw [hbytes, hbytes, Text.bytes_inj]

lemma salted_eq_iff (name password other guess : String) :
    salted name password = salted other guess ↔ (name, password) = (other, guess) ∨
      Shifts name password other guess ∨ Shifts other guess name password :=
  salted_inj.trans (Text.joined_eq_iff rfl name password other guess)

lemma salted_eq_of_name (name password guess : String) :
    salted name guess = salted name password ↔ guess = password :=
  salted_inj.trans (String.append_right_inj _)

lemma salted_eq_of_password (name other password : String) :
    salted other password = salted name password ↔ other = name := by
  rw [salted_inj, String.append_left_inj, String.append_left_inj]

lemma Shifts.colon {name password other guess : String} (h : Shifts name password other guess) :
    ':' ∈ other.toList := by
  obtain ⟨piece, rfl, -⟩ := h
  simp

/-- A stored hash is accepted for the pair it was made of, and beyond collisions only for pairs that
are joined to the same text. These have other names and other passwords, and a colon in a name. -/
theorem check_binds (name password stored : String) (h : Dressed (hash name password) stored) :
    check name password stored = true ∧ ∀ other guess,
      (check other guess stored = true ↔ salted other guess = salted name password ∨
        Collide (salted other guess) (salted name password)) ∧
      (salted other guess = salted name password ↔ (other, guess) = (name, password) ∨
        Shifts other guess name password ∨ Shifts name password other guess) ∧
      (salted other guess = salted name password → (other = name ↔ guess = password)) ∧
      (salted other guess = salted name password → ':' ∉ name.toList → ':' ∉ other.toList →
        other = name ∧ guess = password) := by
  refine ⟨(check_iff_dressed _ _ _).mpr h, fun other guess => ⟨?_, salted_eq_iff _ _ _ _, ?_, ?_⟩⟩
  · rw [check_iff_hash_eq h, hash, hash, hex_eq_hex_iff]
  · intro hsame
    constructor
    · rintro rfl
      exact (salted_eq_of_name _ _ _).mp hsame
    · rintro rfl
      exact (salted_eq_of_password _ _ _).mp hsame
  · intro hsame hname hother
    obtain heq | hshift | hshift := (salted_eq_iff _ _ _ _).mp hsame
    · exact Prod.mk.inj heq
    · exact absurd hshift.colon hname
    · exact absurd hshift.colon hother

section Samples

def mixedHash : String :=
  "b0eE04f880c4fF4261479E2E7822b7410AeE4C7159f4185Ad5b0d88A312B495E"

lemma lower_mixedHash : Text.lower mixedHash = hash "a:b" "c" := by decide +kernel

lemma dressed_mixedHash : Dressed (hash "a:b" "c") (" " ++ mixedHash ++ "\n") := by
  refine ⟨[' '], mixedHash.toList, ['\n'], by simp, List.forall_mem_singleton.mpr (by decide),
    List.forall_mem_singleton.mpr (by decide), ?_⟩
  rw [Text.recased_iff, map_toLower_hash, ← lower_mixedHash, Text.lower, String.toList_ofList]

theorem check_binds_sample :
    Dressed (hash "a:b" "c") (" " ++ mixedHash ++ "\n") ∧
      check "a:b" "c" (" " ++ mixedHash ++ "\n") = true ∧
      check "a" "b:c" (" " ++ mixedHash ++ "\n") = true ∧
      salted "b" "c" ≠ salted "a:b" "c" := by
  obtain ⟨hmade, hother⟩ := check_binds "a:b" "c" _ dressed_mixedHash
  refine ⟨dressed_mixedHash, hmade, (hother "a" "b:c").1.mpr (Or.inl ?_), fun hsame => ?_⟩
  · exact (hother "a" "b:c").2.1.mpr (Or.inr (Or.inl ⟨"b", by decide, by decide⟩))
  · exact absurd (((hother "b" "c").2.2.1 hsame).mpr rfl) (by decide)

theorem check_of_colon_in_name :
    Dressed (hash "a:b" "c") (hash "a:b" "c") ∧ check "a" "b:c" (hash "a:b" "c") = true ∧
      salted "a" "b:c" = salted "a:b" "c" ∧ ¬("a" = "a:b" ∧ "b:c" = "c") := by
  have hsame : salted "a" "b:c" = salted "a:b" "c" := by decide
  have hmade : check "a" "b:c" (hash "a:b" "c") = true := by
    rw [check_iff_dressed, hash, hsame]
    exact dressed_hash "a:b" "c"
  exact ⟨dressed_hash "a:b" "c", hmade, hsame, by decide⟩

end Samples

end ContentHub.Password
