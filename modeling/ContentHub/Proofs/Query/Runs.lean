import ContentHub.Proofs.Query.Canonical
import Mathlib.Tactic

namespace ContentHub.Query

open Text (isBlank Trimmed TrimsTo)

def Wild (run : List Char) : Prop :=
  ∀ c ∈ run, isWildcard c = true

inductive RunsReplaced : List Char → List Char → Prop
  | nil : RunsReplaced [] []
  | plain (c : Char) (hc : isWildcard c = false) {rest result : List Char}
      (hrest : RunsReplaced rest result) : RunsReplaced (c :: rest) (c :: result)
  | run (run : List Char) (hrun : run ≠ []) (hwild : Wild run) {rest result : List Char}
      (hmaximal : ∀ c ∈ rest.head?, isWildcard c = false) (hrest : RunsReplaced rest result) :
      RunsReplaced (run ++ rest) ((if '*' ∈ run then '*' else '?') :: result)

lemma runs_induction {motive : List Char → Prop} (wild : ∀ run, Wild run → motive run)
    (plain : ∀ run c rest, Wild run → isWildcard c = false → motive rest →
      motive (run ++ c :: rest)) (s : List Char) : motive s := by
  -- the run in front of the rest of the text is a part of what the induction is on
  have general : ∀ (s run : List Char), Wild run → motive (run ++ s) := by
    intro s
    induction s with
    | nil =>
      intro run hrun
      rw [List.append_nil]
      exact wild run hrun
    | cons c rest ih =>
      intro run hrun
      cases hc : isWildcard c with
      | false => exact plain run c rest hrun hc (ih [] (List.forall_mem_nil _))
      | true =>
        have hlonger : Wild (run ++ [c]) :=
          List.forall_mem_append.mpr ⟨hrun, List.forall_mem_singleton.mpr hc⟩
        have hrest := ih (run ++ [c]) hlonger
        rwa [List.append_assoc, List.singleton_append] at hrest
  exact general s [] (List.forall_mem_nil _)

lemma isWildcard_of_isBlank {c : Char} (h : isBlank c = true) : isWildcard c = false := by
  apply Bool.eq_false_of_not_eq_true
  intro hc
  cases h.symm.trans (isBlank_of_isWildcard hc)

lemma Wild.map_head?_isBlank {run : List Char} (hrun : Wild run) (hne : run ≠ []) :
    run.head?.map isBlank = some false := by
  rw [List.head?_eq_some_head hne, Option.map_some,
    isBlank_of_isWildcard (hrun _ (List.head_mem hne))]

lemma Wild.map_getLast?_isBlank {run : List Char} (hrun : Wild run) (hne : run ≠ []) :
    run.getLast?.map isBlank = some false := by
  rw [List.getLast?_eq_some_getLast hne, Option.map_some,
    isBlank_of_isWildcard (hrun _ (List.getLast_mem hne))]

lemma trimmed_iff (s : List Char) : Trimmed s ↔
    s.head?.map isBlank ≠ some true ∧ s.getLast?.map isBlank ≠ some true := by
  constructor
  · intro h
    refine ⟨fun hhead => ?_, fun hlast => ?_⟩
    · obtain ⟨c, hc, hblank⟩ := Option.map_eq_some_iff.mp hhead
      cases hblank.symm.trans (h.start c hc)
    · obtain ⟨c, hc, hblank⟩ := Option.map_eq_some_iff.mp hlast
      cases hblank.symm.trans (h.stop c hc)
  · rintro ⟨hhead, hlast⟩
    refine ⟨fun c hc => ?_, fun c hc => ?_⟩
    · rw [Option.mem_def.mp hc] at hhead
      simpa using hhead
    · rw [Option.mem_def.mp hc] at hlast
      simpa using hlast

/-- A function that treats every run of wildcards for itself, and makes no other text of it than a
run. -/
structure Runwise (pass : List Char → List Char) : Prop where
  wild : ∀ run, Wild run → Wild (pass run)
  empty : ∀ run, Wild run → (pass run = [] ↔ run = [])
  split : ∀ run c rest, Wild run → isWildcard c = false →
    pass (run ++ c :: rest) = pass run ++ c :: pass rest

namespace Runwise

variable {pass other : List Char → List Char}

lemma eq_of_wild (h : Runwise pass) (hother : Runwise other)
    (hwild : ∀ run, Wild run → pass run = other run) : pass = other := by
  funext s
  induction s using runs_induction with
  | wild run hrun => exact hwild run hrun
  | plain run c rest hrun hc ih =>
    rw [h.split run c rest hrun hc, hother.split run c rest hrun hc, hwild run hrun, ih]

lemma comp (h : Runwise pass) (hother : Runwise other) : Runwise (pass ∘ other) where
  wild run hrun := h.wild _ (hother.wild run hrun)
  empty run hrun := (h.empty _ (hother.wild run hrun)).trans (hother.empty run hrun)
  split run c rest hrun hc := by
    rw [Function.comp_apply, hother.split run c rest hrun hc,
      h.split _ c _ (hother.wild run hrun) hc]
    rfl

lemma nil (h : Runwise pass) : pass [] = [] :=
  (h.empty [] (List.forall_mem_nil _)).mpr rfl

lemma plain (h : Runwise pass) {c : Char} (hc : isWildcard c = false) (rest : List Char) :
    pass (c :: rest) = c :: pass rest := by
  have hsplit := h.split [] c rest (List.forall_mem_nil _) hc
  rwa [h.nil] at hsplit

lemma split_at (h : Runwise pass) (s : List Char) {c : Char} (hc : isWildcard c = false)
    (rest : List Char) : pass (s ++ c :: rest) = pass s ++ c :: pass rest := by
  induction s using runs_induction with
  | wild run hrun => exact h.split run c rest hrun hc
  | plain run d between hrun hd ih =>
    rw [List.append_assoc, List.cons_append, h.split run d _ hrun hd, ih,
      h.split run d between hrun hd, List.append_assoc, List.cons_append]

lemma plain_append (h : Runwise pass) {lead : List Char} (hlead : ∀ c ∈ lead, isWildcard c = false)
    (s : List Char) : pass (lead ++ s) = lead ++ pass s := by
  induction lead with
  | nil => rfl
  | cons c rest ih =>
    obtain ⟨hc, hrest⟩ := List.forall_mem_cons.mp hlead
    rw [List.cons_append, h.plain hc, ih hrest, List.cons_append]

lemma append_plain (h : Runwise pass) (s : List Char) {trail : List Char}
    (htrail : ∀ c ∈ trail, isWildcard c = false) : pass (s ++ trail) = pass s ++ trail := by
  cases trail with
  | nil => simp
  | cons c rest =>
    obtain ⟨hc, hrest⟩ := List.forall_mem_cons.mp htrail
    have hkept := h.plain_append hrest []
    rw [List.append_nil, h.nil, List.append_nil] at hkept
    rw [h.split_at s hc, hkept]

lemma map_head?_isBlank (h : Runwise pass) (s : List Char) :
    (pass s).head?.map isBlank = s.head?.map isBlank := by
  induction s using runs_induction with
  | wild run hrun =>
    rcases eq_or_ne run [] with rfl | hne
    · rw [h.nil]
    · rw [hrun.map_head?_isBlank hne, (h.wild run hrun).map_head?_isBlank]
      exact mt (h.empty run hrun).mp hne
  | plain run c rest hrun hc _ =>
    rw [h.split run c rest hrun hc]
    rcases eq_or_ne run [] with rfl | hne
    · rw [h.nil]
      rfl
    · have hpass := mt (h.empty run hrun).mp hne
      rw [List.head?_append_of_ne_nil _ hpass, List.head?_append_of_ne_nil _ hne,
        hrun.map_head?_isBlank hne, (h.wild run hrun).map_head?_isBlank hpass]

lemma map_getLast?_isBlank (h : Runwise pass) (s : List Char) :
    (pass s).getLast?.map isBlank = s.getLast?.map isBlank := by
  induction s using runs_induction with
  | wild run hrun =>
    rcases eq_or_ne run [] with rfl | hne
    · rw [h.nil]
    · rw [hrun.map_getLast?_isBlank hne, (h.wild run hrun).map_getLast?_isBlank]
      exact mt (h.empty run hrun).mp hne
  | plain run c rest hrun hc ih =>
    have hcons : ∀ t : List Char, (c :: t).getLast?.map isBlank =
        some ((t.getLast?.map isBlank).getD (isBlank c)) := fun t => by
      rw [List.getLast?_cons, Option.map_some, Option.getD_map]
    rw [h.split run c rest hrun hc, List.getLast?_append_cons, List.getLast?_append_cons, hcons,
      hcons, ih]

lemma trimmed (h : Runwise pass) {s : List Char} (hs : Trimmed s) : Trimmed (pass s) := by
  rw [trimmed_iff] at hs ⊢
  rwa [h.map_head?_isBlank, h.map_getLast?_isBlank]

lemma trimsTo (h : Runwise pass) {s core : List Char} (hs : TrimsTo s core) :
    TrimsTo (pass s) (pass core) := by
  obtain ⟨⟨lead, trail, rfl, hlead, htrail⟩, hcore⟩ := hs
  refine ⟨⟨lead, trail, ?_, hlead, htrail⟩, h.trimmed hcore⟩
  rw [h.append_plain _ fun c hc => isWildcard_of_isBlank (htrail c hc),
    h.plain_append fun c hc => isWildcard_of_isBlank (hlead c hc)]

lemma trimChars_comm (h : Runwise pass) (s : List Char) :
    Text.trimChars (pass s) = pass (Text.trimChars s) := by
  apply TrimsTo.trimChars_eq
  apply h.trimsTo
  exact Text.trimsTo_trimChars s

end Runwise

lemma collapse_cons (c : Char) (s : List Char) : collapse (c :: s) = absorb c (collapse s) := rfl

lemma isWildcard_iff (c : Char) : isWildcard c = true ↔ c = '*' ∨ c = '?' := by
  simp [isWildcard]

lemma absorb_plain (d : Char) {c : Char} (hc : isWildcard c = false) (s rest : List Char) :
    absorb d (s ++ c :: rest) = absorb d s ++ c :: rest := by
  cases s with
  | nil => simp [absorb, hc]
  | cons e others =>
    simp only [List.cons_append, absorb]
    split <;> rfl

lemma collapse_split (s : List Char) {c : Char} (hc : isWildcard c = false) (rest : List Char) :
    collapse (s ++ c :: rest) = collapse s ++ c :: collapse rest := by
  induction s with
  | nil =>
    rw [List.nil_append, collapse_cons]
    cases collapse rest <;> simp [absorb, hc, collapse]
  | cons d others ih =>
    rw [List.cons_append, collapse_cons, ih, absorb_plain d hc, collapse_cons]

lemma collapse_wild {run : List Char} (hrun : Wild run) (hne : run ≠ []) :
    collapse run = [if '*' ∈ run then '*' else '?'] := by
  induction run with
  | nil => exact absurd rfl hne
  | cons c rest ih =>
    obtain ⟨hc, hrest⟩ := List.forall_mem_cons.mp hrun
    rw [collapse_cons]
    rcases eq_or_ne rest [] with rfl | hmore
    · rcases (isWildcard_iff c).mp hc with rfl | rfl <;> rfl
    · have hjoined : isWildcard (if '*' ∈ rest then '*' else '?') = true := by split <;> rfl
      rw [ih hrest hmore, absorb, hc, hjoined, Bool.and_self, if_pos rfl, joinWildcards]
      rcases (isWildcard_iff c).mp hc with rfl | rfl
      · simp
      · by_cases hstar : '*' ∈ rest <;> simp [hstar]

lemma runwise_collapse : Runwise collapse where
  wild run hrun := by
    rcases eq_or_ne run [] with rfl | hne
    · exact List.forall_mem_nil _
    · rw [collapse_wild hrun hne]
      refine List.forall_mem_singleton.mpr ?_
      split <;> rfl
  empty run hrun := by
    rcases eq_or_ne run [] with rfl | hne
    · simp [collapse]
    · simp [collapse_wild hrun hne, hne]
  split run c rest _ hc := collapse_split run hc rest

lemma runsReplaced_collapse (s : List Char) : RunsReplaced s (collapse s) := by
  induction s using runs_induction with
  | wild run hrun =>
    rcases eq_or_ne run [] with rfl | hne
    · exact .nil
    · have hreplaced := RunsReplaced.run run hne hrun (by simp) .nil
      rwa [List.append_nil, ← collapse_wild hrun hne] at hreplaced
  | plain run c rest hrun hc ih =>
    have hplain := RunsReplaced.plain c hc ih
    rw [collapse_split run hc]
    rcases eq_or_ne run [] with rfl | hne
    · exact hplain
    · rw [collapse_wild hrun hne]
      refine .run run hne hrun ?_ hplain
      rintro _ ⟨⟩
      exact hc

lemma RunsReplaced.eq_collapse {s result : List Char} (h : RunsReplaced s result) :
    result = collapse s := by
  induction h with
  | nil => rfl
  | plain c hc _ ih => rw [ih, runwise_collapse.plain hc]
  | run run hne hwild hmaximal _ ih =>
    rename_i rest _ _
    subst ih
    cases rest with
    | nil => rw [List.append_nil, collapse_wild hwild hne, collapse, List.foldr_nil]
    | cons c others =>
      have hc : isWildcard c = false := hmaximal c rfl
      rw [collapse_split run hc, collapse_wild hwild hne, runwise_collapse.plain hc,
        List.singleton_append]

lemma runsReplaced_iff (s result : List Char) : RunsReplaced s result ↔ result = collapse s := by
  constructor
  · exact RunsReplaced.eq_collapse
  · rintro rfl
    exact runsReplaced_collapse s

/-- The canonical form of a text is what is left between the blanks at its ends, with every maximal
run of wildcards replaced by one. -/
theorem canonicalText_eq_iff (text result : String) :
    canonicalText (some text) = result ↔
      ∃ core, TrimsTo text.toList core ∧ RunsReplaced core result.toList := by
  have hresult : canonicalText (some text) = result ↔
      result.toList = collapse (Text.trimChars text.toList) := by
    rw [← String.toList_inj, canonicalText, String.toList_ofList, eq_comm]
  rw [hresult, ← runsReplaced_iff]
  constructor
  · intro h
    exact ⟨Text.trimChars text.toList, Text.trimsTo_trimChars text.toList, h⟩
  · rintro ⟨core, hcore, h⟩
    rwa [hcore.trimChars_eq]

end ContentHub.Query
