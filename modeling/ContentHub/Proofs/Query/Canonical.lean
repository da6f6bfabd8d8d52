import ContentHub.Proofs.Text.Blank
import ContentHub.Query.Wildcard
import Mathlib.Data.List.Chain
import Mathlib.Tactic

namespace ContentHub.Query

open Text (isBlank Trimmed)

def Apart (s : List Char) : Prop :=
  s.IsChain fun c d => ¬(isWildcard c = true ∧ isWildcard d = true)

structure Canonical (text : String) : Prop where
  trimmed : Trimmed text.toList
  apart : Apart text.toList

lemma isWildcard_joinWildcards (c d : Char) : isWildcard (joinWildcards c d) = true := by
  simp only [joinWildcards]
  split <;> rfl

lemma isBlank_of_isWildcard {c : Char} (h : isWildcard c = true) : isBlank c = false := by
  simp only [isWildcard, Bool.or_eq_true, beq_iff_eq] at h
  rcases h with rfl | rfl <;> decide

lemma apart_of_plain {s : List Char} (h : ∀ c ∈ s, isWildcard c = false) : Apart s := by
  induction s with
  | nil => exact .nil
  | cons c rest ih =>
    obtain ⟨hc, hrest⟩ := List.forall_mem_cons.mp h
    refine List.IsChain.cons (ih hrest) fun d _ => ?_
    simp [hc]

lemma apart_absorb (c : Char) {s : List Char} (h : Apart s) : Apart (absorb c s) := by
  cases s with
  | nil => exact .singleton c
  | cons d rest =>
    simp only [absorb]
    split
    · next hboth =>
      -- what follows the joined wildcard also followed a wildcard before
      have hd : isWildcard d = true := by simp_all
      refine List.IsChain.cons h.tail fun e he => ?_
      rintro ⟨-, hwild⟩
      exact h.rel_head? he ⟨hd, hwild⟩
    · next hboth =>
      refine h.cons_cons fun hwild => hboth ?_
      simp [hwild]

lemma apart_collapse (s : List Char) : Apart (collapse s) := by
  induction s with
  | nil => exact .nil
  | cons c rest ih => exact apart_absorb c ih

lemma absorb_of_apart {c : Char} {s : List Char} (h : Apart (c :: s)) : absorb c s = c :: s := by
  cases s with
  | nil => rfl
  | cons d rest =>
    have hboth := List.IsChain.rel h
    simp_all [absorb]

lemma collapse_of_apart {s : List Char} (h : Apart s) : collapse s = s := by
  induction s with
  | nil => rfl
  | cons c rest ih =>
    have hrest : collapse rest = rest := ih h.tail
    rw [collapse, List.foldr_cons, ← collapse, hrest, absorb_of_apart h]

lemma map_head?_collapse (s : List Char) :
    (collapse s).head?.map isBlank = s.head?.map isBlank := by
  cases s with
  | nil => rfl
  | cons c rest =>
    have hcollapse : collapse (c :: rest) = absorb c (collapse rest) := rfl
    rw [hcollapse]
    cases collapse rest with
    | nil => rfl
    | cons d others =>
      simp only [absorb]
      split
      · next hboth =>
        have hc : isWildcard c = true := by simp_all
        simp [isBlank_of_isWildcard hc, isBlank_of_isWildcard (isWildcard_joinWildcards c d)]
      · rfl

lemma map_getLast?_absorb (c : Char) (s : List Char) :
    (absorb c s).getLast?.map isBlank = (c :: s).getLast?.map isBlank := by
  cases s with
  | nil => rfl
  | cons d rest =>
    simp only [absorb]
    split
    · next hboth =>
      have hd : isWildcard d = true := by simp_all
      rw [List.getLast?_cons_cons]
      cases rest with
      | nil =>
        simp [isBlank_of_isWildcard hd, isBlank_of_isWildcard (isWildcard_joinWildcards c d)]
      | cons e others => rw [List.getLast?_cons_cons, List.getLast?_cons_cons]
    · rfl

lemma map_getLast?_collapse (s : List Char) :
    (collapse s).getLast?.map isBlank = s.getLast?.map isBlank := by
  induction s with
  | nil => rfl
  | cons c rest ih =>
    have hcons : ∀ t : List Char, (c :: t).getLast?.map isBlank =
        some ((t.getLast?.map isBlank).getD (isBlank c)) := fun t => by
      rw [List.getLast?_cons, Option.map_some, Option.getD_map]
    rw [collapse, List.foldr_cons, ← collapse, map_getLast?_absorb, hcons, hcons, ih]

lemma trimmed_collapse {s : List Char} (h : Trimmed s) : Trimmed (collapse s) := by
  refine ⟨fun c hc => ?_, fun c hc => ?_⟩
  · have hhead := map_head?_collapse s
    rw [Option.mem_def.mp hc, Option.map_some, eq_comm, Option.map_eq_some_iff] at hhead
    obtain ⟨d, hd, hblank⟩ := hhead
    rw [← hblank, h.start d hd]
  · have hlast := map_getLast?_collapse s
    rw [Option.mem_def.mp hc, Option.map_some, eq_comm, Option.map_eq_some_iff] at hlast
    obtain ⟨d, hd, hblank⟩ := hlast
    rw [← hblank, h.stop d hd]

lemma canonical_matchAll : Canonical matchAll := by
  have hhead : matchAll.toList.head? = some 'm' := rfl
  have hlast : matchAll.toList.getLast? = some '}' := rfl
  have hplain : matchAll.toList.all (fun c => !isWildcard c) = true := rfl
  refine ⟨⟨?_, ?_⟩, ?_⟩
  · rw [hhead]
    rintro _ ⟨⟩
    rfl
  · rw [hlast]
    rintro _ ⟨⟩
    rfl
  · apply apart_of_plain
    simpa using hplain

lemma canonical_canonicalText (query : Option String) : Canonical (canonicalText query) := by
  cases query with
  | none => exact canonical_matchAll
  | some text =>
    have hchars : (canonicalText (some text)).toList =
        collapse (Text.trimChars text.toList) := String.toList_ofList
    constructor
    · rw [hchars]
      exact trimmed_collapse (Text.trimmed_trimChars text.toList)
    · rw [hchars]
      exact apart_collapse _

lemma canonicalText_of_canonical {text : String} (h : Canonical text) :
    canonicalText (some text) = text := by
  rw [canonicalText, Text.trimChars_of_trimmed h.trimmed, collapse_of_apart h.apart,
    String.ofList_toList]

lemma canonicalText_eq_self_iff (text : String) :
    canonicalText (some text) = text ↔ Canonical text := by
  constructor
  · intro h
    rw [← h]
    exact canonical_canonicalText (some text)
  · exact canonicalText_of_canonical

/-- Normalizing is a projection onto the canonical texts. Of settings it changes nothing but the
text, which it makes canonical. -/
theorem canonicalText_projection :
    (∀ text, canonicalText (some text) = text ↔ Canonical text) ∧
      (∀ query, Canonical (canonicalText query)) ∧
      (∀ query, canonicalText (some (canonicalText query)) = canonicalText query) ∧
      ∀ settings : Settings, ∃ text, text = canonicalText settings.text ∧ Canonical text ∧
        canonicalSettings (some settings) = .ok { settings with text := some text } ∧
        canonicalSettings (some { settings with text := some text }) =
          .ok { settings with text := some text } := by
  refine ⟨canonicalText_eq_self_iff, canonical_canonicalText, ?_, ?_⟩
  · intro query
    apply canonicalText_of_canonical
    exact canonical_canonicalText query
  · intro settings
    have hcanonical := canonical_canonicalText settings.text
    refine ⟨canonicalText settings.text, rfl, hcanonical, rfl, ?_⟩
    rw [canonicalSettings, Settings.canonical, canonicalText_of_canonical hcanonical]

end ContentHub.Query
