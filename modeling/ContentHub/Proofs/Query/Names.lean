import ContentHub.Proofs.Entries
import ContentHub.Query.Form
import Mathlib.Tactic

namespace ContentHub.Query

lemma find?_sameLetters {α : Type} (names : Entries α)
    (h : ∀ entry ∈ names, Text.lower entry.1 = entry.1) (raw : String) :
    (names.find? fun entry => Text.sameLetters raw entry.1).map Prod.snd =
      Entries.get? (Text.lower raw) names := by
  induction names with
  | nil => rfl
  | cons entry rest ih =>
    obtain ⟨hentry, hrest⟩ := List.forall_mem_cons.mp h
    by_cases hname : Text.lower raw = entry.1
    · rw [List.find?_cons_of_pos (by simp [Text.sameLetters, hentry, hname])]
      simp [Entries.get?, hname]
    · rw [List.find?_cons_of_neg (by simp [Text.sameLetters, hentry, hname]), ih hrest]
      simp [Entries.get?, Ne.symm hname]

inductive Interval.Called : String → Interval → Prop
  | day : Called "day" .day
  | week : Called "week" .week
  | oneWeek : Called "1w" .week
  | month : Called "month" .month

def Interval.Names (raw : String) (interval : Interval) : Prop :=
  Called (Text.lower (Text.trim raw)) interval

lemma Interval.named?_eq_some (raw : String) (interval : Interval) :
    named? raw = some interval ↔ Names raw interval := by
  rw [named?, find?_sameLetters _ (by decide), Names]
  constructor
  · intro h
    have hmem := Entries.mem_of_get? _ _ _ h
    simp only [names, List.mem_cons, List.not_mem_nil, Prod.mk.injEq, or_false] at hmem
    rcases hmem with ⟨hname, rfl⟩ | ⟨hname, rfl⟩ | ⟨hname, rfl⟩ | ⟨hname, rfl⟩ <;> rw [hname]
    · exact .week
    · exact .day
    · exact .oneWeek
    · exact .month
  · generalize Text.lower (Text.trim raw) = name
    rintro (_ | _ | _ | _) <;> rfl

inductive Order.Called : String → Order → Prop
  | newest : Called "new" .newest
  | oldest : Called "old" .oldest

def Order.Names (raw : String) (order : Order) : Prop :=
  Called (Text.lower raw) order

lemma Order.named?_eq_some (raw : String) (order : Order) :
    named? raw = some order ↔ Names raw order := by
  rw [named?, find?_sameLetters _ (by decide), Names]
  constructor
  · intro h
    have hmem := Entries.mem_of_get? _ _ _ h
    simp only [names, List.mem_cons, List.not_mem_nil, Prod.mk.injEq, or_false] at hmem
    rcases hmem with ⟨hname, rfl⟩ | ⟨hname, rfl⟩ <;> rw [hname]
    · exact .newest
    · exact .oldest
  · generalize Text.lower raw = name
    rintro (_ | _) <;> rfl

def NamesTruth (raw : String) (b : Bool) : Prop :=
  Text.lower raw = if b then "true" else "false"

lemma truth?_eq_some (raw : String) (b : Bool) : truth? raw = some b ↔ NamesTruth raw b := by
  have htrue : Text.lower "true" = "true" := by decide
  have hfalse : Text.lower "false" = "false" := by decide
  simp only [truth?, NamesTruth, Text.sameLetters, htrue, hfalse, beq_iff_eq]
  generalize Text.lower raw = name
  by_cases hname : name = "true"
  · subst hname
    cases b <;> simp
  · cases b <;> simp [hname]

end ContentHub.Query
