import ContentHub.Proofs.Json.Escapes
import ContentHub.Proofs.Store.Rows
import Mathlib.Tactic

namespace ContentHub.Store

def Label.Spelled (label key : String) : Prop :=
  Label.upToZero (Json.codes label.toList) = Json.textCodes key

instance (label key : String) : Decidable (Label.Spelled label key) :=
  inferInstanceAs (Decidable (_ = _))

lemma textCodes_inj (s t : String) : Json.textCodes s = Json.textCodes t ↔ s = t := by
  rw [Json.textCodes, Json.textCodes, map_toNat_inj, String.toList_inj]

lemma upToZero_eq_self (key : String) (h : '\x00' ∉ key.toList) :
    Label.upToZero (Json.textCodes key) = Json.textCodes key := by
  rw [Json.textCodes, upToZero_textCodes, upToNul_eq_self _ h]

lemma spells_iff_spelled (label key : String) (h : '\x00' ∉ key.toList) :
    Label.spells label.toList (Json.textCodes key) = true ↔ Label.Spelled label key := by
  rw [Label.spells, upToZero_eq_self key h, beq_iff_eq, Label.Spelled]

lemma spelled_self (key : String) (hslash : '\\' ∉ key.toList) (hnul : '\x00' ∉ key.toList) :
    Label.Spelled key key := by
  have hcodes : Json.codes key.toList = Json.textCodes key := by
    simp [Json.codes, Json.textCodes, hslash]
  rw [Label.Spelled, hcodes, upToZero_eq_self key hnul]

lemma Label.Spelled.unique {label key other : String} (h : Label.Spelled label key)
    (ho : Label.Spelled label other) : key = other :=
  (textCodes_inj key other).mp (h.symm.trans ho)

lemma load_upToZero_le (codes : List ℕ) :
    Json.Escapes.load (Label.upToZero codes) ≤ Json.Escapes.load codes :=
  ((List.takeWhile_sublist _).map _).sum_le_sum fun _ _ => Nat.zero_le _

lemma Label.Spelled.eq_iff {label key : String} (h : Label.Spelled label key)
    (hnul : '\x00' ∉ label.toList) : key = label ↔ '\\' ∉ label.toList := by
  constructor
  · rintro rfl hslash
    have hcodes : Json.codes key.toList =
        Json.Escapes.ofBytes (key.toList.flatMap String.utf8EncodeChar) := by
      simp [Json.codes, hslash]
    have hread : Json.Escapes.load (Json.codes key.toList) <
        Json.Escapes.load (Json.textCodes key) := by
      rw [hcodes]
      exact Json.Escapes.load_ofBytes_lt key.toList hslash
    have hkept := load_upToZero_le (Json.codes key.toList)
    rw [show Label.upToZero _ = _ from h] at hkept
    exact absurd hread (Nat.not_lt.mpr hkept)
  · intro hslash
    exact h.unique (spelled_self label hslash hnul)

lemma find?_of_spelled (label key : String) (members : List (String × Json))
    (hclear : MembersClear members) (h : Label.Spelled label key) :
    (members.find? fun member => Label.spells label.toList (Json.textCodes member.1)).map Prod.snd =
      Entries.get? key members := by
  induction members with
  | nil => rfl
  | cons member rest ih =>
    obtain ⟨stored, value⟩ := member
    obtain ⟨hkey, -, hrest⟩ := hclear
    have hspells : Label.spells label.toList (Json.textCodes stored) = decide (stored = key) := by
      rw [Bool.eq_iff_iff, spells_iff_spelled label stored hkey, decide_eq_true_iff]
      constructor
      · intro hstored
        exact hstored.unique h
      · rintro rfl
        exact h
    rw [List.find?_cons, hspells]
    by_cases hk : stored = key <;> simp [Entries.get?, hk, ih hrest]

lemma find?_of_unspelled (label : String) (members : List (String × Json))
    (hclear : MembersClear members) (h : ∀ key, ¬Label.Spelled label key) :
    members.find? (fun member => Label.spells label.toList (Json.textCodes member.1)) = none := by
  induction members with
  | nil => rfl
  | cons member rest ih =>
    obtain ⟨stored, value⟩ := member
    obtain ⟨hkey, -, hrest⟩ := hclear
    have hspells : Label.spells label.toList (Json.textCodes stored) = false := by
      rw [← Bool.not_eq_true, spells_iff_spelled label stored hkey]
      exact h stored
    rw [List.find?_cons, hspells]
    exact ih hrest

lemma resolveSpelled_of_spelled (path other : Path) (h : List.Forall₂ Label.Spelled path other)
    (document : Json) (hclear : KeysClear document) :
    resolveSpelled path document = resolve other document := by
  induction h generalizing document with
  | nil => rfl
  | @cons label key path other hspelled _ ih =>
    cases document with
    | object members =>
      have hfind := find?_of_spelled label key members hclear hspelled
      simp only [resolveSpelled, resolve, Json.member?, ← hfind]
      cases hm : members.find? fun member =>
          Label.spells label.toList (Json.textCodes member.1) with
      | none => rfl
      | some member =>
        refine ih member.2 (keysClear_of_get? key members member.2 hclear ?_)
        rw [← hfind, hm]
        rfl
    | null | bool | number | string | array => rfl

lemma resolveSpelled_of_unspelled (before after : Path) (label : String) (document : Json)
    (hclear : KeysClear document) (h : ∀ key, ¬Label.Spelled label key) :
    resolveSpelled (before ++ label :: after) document = none := by
  induction before generalizing document with
  | nil =>
    cases document with
    | object members => simp [resolveSpelled, find?_of_unspelled label members hclear h]
    | null | bool | number | string | array => rfl
  | cons first before ih =>
    cases document with
    | object members =>
      simp only [List.cons_append, resolveSpelled]
      cases hm : members.find? fun member =>
          Label.spells first.toList (Json.textCodes member.1) with
      | none => rfl
      | some member => exact ih member.2 (keysClear_of_mem members hclear member
          (List.mem_of_find?_eq_some hm))
    | null | bool | number | string | array => rfl

end ContentHub.Store
