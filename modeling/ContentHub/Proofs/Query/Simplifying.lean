import ContentHub.Proofs.Query.Passes
import Mathlib.Data.List.Chain
import Mathlib.Logic.Relation
import Mathlib.Tactic

/-!
Joining neighbouring wildcards one pair at a time, anywhere in a text. Each step makes the text
shorter and leaves its collapsed form as it is, so all ways of simplifying a text end, and end in
the same text.
-/

namespace ContentHub.Query

open Relation (ReflTransGen)

inductive Joins : Char → Char → Char → Prop
  | stars : Joins '*' '*' '*'
  | starMark : Joins '*' '?' '*'
  | markStar : Joins '?' '*' '*'
  | marks : Joins '?' '?' '?'

inductive Simplifies : List Char → List Char → Prop
  | join (before after : List Char) {c d e : Char} (h : Joins c d e) :
      Simplifies (before ++ c :: d :: after) (before ++ e :: after)

def Simplest (s : List Char) : Prop :=
  ∀ t, ¬Simplifies s t

variable {s t : List Char}

lemma joins_iff (c d e : Char) : Joins c d e ↔
    isWildcard c = true ∧ isWildcard d = true ∧ e = joinWildcards c d := by
  constructor
  · intro h
    cases h <;> exact ⟨rfl, rfl, rfl⟩
  · rintro ⟨hc, hd, rfl⟩
    rcases (isWildcard_iff c).mp hc with rfl | rfl <;>
      rcases (isWildcard_iff d).mp hd with rfl | rfl
    · exact .stars
    · exact .starMark
    · exact .markStar
    · exact .marks

lemma joinWildcards_assoc (c d e : Char) :
    joinWildcards c (joinWildcards d e) = joinWildcards (joinWildcards c d) e := by
  by_cases hc : c = '*' <;> by_cases hd : d = '*' <;> by_cases he : e = '*' <;>
    simp [joinWildcards, hc, hd, he]

lemma absorb_absorb {c d e : Char} (h : Joins c d e) (s : List Char) :
    absorb c (absorb d s) = absorb e s := by
  obtain ⟨hc, hd, rfl⟩ := (joins_iff c d e).mp h
  have he := isWildcard_joinWildcards c d
  cases s with
  | nil => simp [absorb, hc, hd]
  | cons f rest =>
    cases hf : isWildcard f with
    | true =>
      have hjoined := isWildcard_joinWildcards d f
      simp [absorb, hc, hd, he, hf, hjoined, joinWildcards_assoc]
    | false => simp [absorb, hc, hd, he, hf]

lemma Simplifies.collapse_eq (h : Simplifies s t) : collapse s = collapse t := by
  obtain ⟨before, after, hjoin⟩ := h
  simp only [collapse, List.foldr_append, List.foldr_cons, absorb_absorb hjoin]

lemma Simplifies.length_eq (h : Simplifies s t) : t.length + 1 = s.length := by
  obtain ⟨before, after, -⟩ := h
  simp only [List.length_append, List.length_cons]
  omega

lemma simplest_iff_apart (s : List Char) : Simplest s ↔ Apart s := by
  rw [Apart, List.isChain_iff_forall_rel_of_append_cons_cons]
  constructor
  · rintro h c d before after rfl ⟨hc, hd⟩
    apply h
    exact .join before after ((joins_iff c d _).mpr ⟨hc, hd, rfl⟩)
  · rintro h t ⟨before, after, hjoin⟩
    obtain ⟨hc, hd, -⟩ := (joins_iff _ _ _).mp hjoin
    exact h rfl ⟨hc, hd⟩

lemma collapse_eq_of_reached (h : ReflTransGen Simplifies s t) : collapse t = collapse s := by
  induction h with
  | refl => rfl
  | tail _ hstep ih => rw [← hstep.collapse_eq, ih]

lemma simplest_iff_eq_collapse (h : ReflTransGen Simplifies s t) :
    Simplest t ↔ t = collapse s := by
  rw [simplest_iff_apart, ← collapse_eq_of_reached h]
  constructor
  · intro hapart
    exact (collapse_of_apart hapart).symm
  · intro heq
    rw [heq]
    exact apart_collapse t

lemma exists_simplest (s : List Char) : ∃ t, ReflTransGen Simplifies s t ∧ Simplest t := by
  induction hlength : s.length using Nat.strong_induction_on generalizing s with
  | _ n ih =>
    by_cases hs : Simplest s
    · exact ⟨s, .refl, hs⟩
    · obtain ⟨next, hnext⟩ := not_forall_not.mp hs
      have hshorter : next.length < n := by
        have := hnext.length_eq
        omega
      obtain ⟨t, ht, hsimplest⟩ := ih next.length hshorter next rfl
      exact ⟨t, .head hnext ht, hsimplest⟩

lemma reaches_collapse (s : List Char) : ReflTransGen Simplifies s (collapse s) := by
  obtain ⟨t, ht, hsimplest⟩ := exists_simplest s
  rwa [← (simplest_iff_eq_collapse ht).mp hsimplest]

lemma length_run (run : ℕ → List Char) (n : ℕ)
    (h : ∀ i < n, Simplifies (run i) (run (i + 1))) : (run n).length + n = (run 0).length := by
  induction n with
  | zero => rfl
  | succ n ih =>
    have hstep := (h n n.lt_succ_self).length_eq
    have hearlier := ih fun i hi => h i (hi.trans n.lt_succ_self)
    omega

lemma run_ends (run : ℕ → List Char) :
    ∃ n ≤ (run 0).length, ¬Simplifies (run n) (run (n + 1)) := by
  by_contra hall
  push Not at hall
  have hlength := length_run run ((run 0).length + 1) fun i hi => hall i (Nat.lt_succ_iff.mp hi)
  omega

/-- All ways of joining neighbouring wildcards in the trimmed text end, and all of them end in its
canonical form, wherever and in whatever order they join. The two passes that make the canonical
form can be made in any order, before or after trimming. -/
theorem canonicalText_confluent (text : String) :
    (∀ run : ℕ → List Char, run 0 = Text.trimChars text.toList →
      ∃ n ≤ (run 0).length, ¬Simplifies (run n) (run (n + 1))) ∧
    (∀ result, ReflTransGen Simplifies (Text.trimChars text.toList) result →
      ReflTransGen Simplifies result (canonicalText (some text)).toList ∧
      (Simplest result ↔ result = (canonicalText (some text)).toList)) ∧
    (canonicalText (some text)).toList = joinMarks (joinStars (Text.trimChars text.toList)) ∧
    joinMarks (joinStars text.toList) = joinStars (joinMarks text.toList) ∧
    joinStars (Text.trimChars text.toList) = Text.trimChars (joinStars text.toList) ∧
    joinMarks (Text.trimChars text.toList) = Text.trimChars (joinMarks text.toList) := by
  have hchars : (canonicalText (some text)).toList = collapse (Text.trimChars text.toList) :=
    String.toList_ofList
  refine ⟨fun run _ => run_ends run, fun result hreached => ⟨?_, ?_⟩, canonicalText_passes text,
    ?_, (runwise_joinStars.trimChars_comm _).symm, (runwise_joinMarks.trimChars_comm _).symm⟩
  · rw [hchars, ← collapse_eq_of_reached hreached]
    exact reaches_collapse result
  · rw [hchars]
    exact simplest_iff_eq_collapse hreached
  · exact congrFun (joinMarks_joinStars.trans joinStars_joinMarks.symm) text.toList

end ContentHub.Query
