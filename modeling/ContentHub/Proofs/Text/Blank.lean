import ContentHub.Text.Basic
import Mathlib.Data.List.TakeWhile
import Mathlib.Tactic

namespace ContentHub.Text

structure Trimmed (s : List Char) : Prop where
  start : ∀ c ∈ s.head?, isBlank c = false
  stop : ∀ c ∈ s.getLast?, isBlank c = false

lemma getLast?_trimEnd (s : List Char) (c : Char) (h : (trimEnd s).getLast? = some c) :
    isBlank c = false := by
  rw [trimEnd, List.getLast?_reverse] at h
  exact head?_trimStart s.reverse c h

lemma trimEnd_eq_self (s : List Char) (h : ∀ c ∈ s.getLast?, isBlank c = false) :
    trimEnd s = s := by
  have hreverse : trimStart s.reverse = s.reverse := by
    apply trimStart_eq_self
    rwa [List.head?_reverse]
  rw [trimEnd, ← trimStart, hreverse, List.reverse_reverse]

lemma trimEnd_prefix (s : List Char) : trimEnd s <+: s := by
  obtain ⟨blanks, hblanks⟩ := List.dropWhile_suffix (l := s.reverse) isBlank
  refine ⟨blanks.reverse, ?_⟩
  rw [trimEnd, ← List.reverse_append, hblanks, List.reverse_reverse]

lemma trimmed_trimChars (s : List Char) : Trimmed (trimChars s) := by
  refine ⟨fun c hc => ?_, getLast?_trimEnd (trimStart s)⟩
  obtain ⟨blanks, hblanks⟩ := trimEnd_prefix (trimStart s)
  have hhead : (trimEnd (trimStart s)).head? = some c := hc
  apply head?_trimStart s c
  rw [← hblanks, List.head?_append, hhead, Option.some_or]

lemma trimChars_of_trimmed {s : List Char} (h : Trimmed s) : trimChars s = s := by
  rw [trimChars, trimStart_eq_self s h.start, trimEnd_eq_self s h.stop]

structure TrimsTo (s core : List Char) : Prop where
  around : ∃ lead trail, s = lead ++ core ++ trail ∧
    (∀ c ∈ lead, isBlank c = true) ∧ ∀ c ∈ trail, isBlank c = true
  trimmed : Trimmed core

lemma trimsTo_trimChars (s : List Char) : TrimsTo s (trimChars s) := by
  refine ⟨⟨s.takeWhile isBlank, ((trimStart s).reverse.takeWhile isBlank).reverse, ?_, ?_, ?_⟩,
    trimmed_trimChars s⟩
  · have hend : trimChars s ++ ((trimStart s).reverse.takeWhile isBlank).reverse = trimStart s := by
      rw [trimChars, trimEnd, ← List.reverse_append, List.takeWhile_append_dropWhile,
        List.reverse_reverse]
    rw [List.append_assoc, hend, trimStart, List.takeWhile_append_dropWhile]
  · exact fun c hc => List.mem_takeWhile_imp hc
  · exact fun c hc => List.mem_takeWhile_imp (List.mem_reverse.mp hc)

lemma TrimsTo.trimChars_eq {s core : List Char} (h : TrimsTo s core) : trimChars s = core := by
  obtain ⟨⟨lead, trail, rfl, hlead, htrail⟩, hcore⟩ := h
  have hstart : trimStart (lead ++ core ++ trail) = trimStart (core ++ trail) := by
    rw [trimStart, List.append_assoc, List.dropWhile_append_of_pos hlead, trimStart]
  rw [trimChars, hstart]
  cases hparts : core with
  | nil =>
    have hnil : trimStart ([] ++ trail) = [] := List.dropWhile_eq_nil_iff.mpr htrail
    rw [hnil]
    rfl
  | cons c rest =>
    have hkept : trimStart (core ++ trail) = core ++ trail := by
      apply trimStart_eq_self
      rw [hparts, List.cons_append]
      exact fun d hd => hcore.start d (by rw [hparts]; exact hd)
    have hcut : trimEnd (core ++ trail) = trimEnd core := by
      rw [trimEnd, List.reverse_append, List.dropWhile_append_of_pos, trimEnd]
      exact fun d hd => htrail d (List.mem_reverse.mp hd)
    rw [← hparts, hkept, hcut, trimEnd_eq_self core hcore.stop]

lemma trimChars_eq_nil_iff (s : List Char) : trimChars s = [] ↔ ∀ c ∈ s, isBlank c = true := by
  have hend : trimChars s = [] ↔ ∀ c ∈ trimStart s, isBlank c = true := by
    simp only [trimChars, trimEnd, List.reverse_eq_nil_iff, List.dropWhile_eq_nil_iff,
      List.mem_reverse]
  have hstart : trimStart s = [] ↔ ∀ c ∈ s, isBlank c = true := List.dropWhile_eq_nil_iff
  rw [hend, ← hstart]
  constructor
  · intro h
    cases hs : trimStart s with
    | nil => rfl
    | cons c rest =>
      have hblank := h c (by rw [hs]; exact List.mem_cons_self)
      have hhead := head?_trimStart s c (by rw [hs]; rfl)
      cases hblank.symm.trans hhead
  · intro h
    simp [h]

lemma trim_eq_empty_iff (s : String) : trim s = "" ↔ ∀ c ∈ s.toList, isBlank c = true := by
  rw [trim, ← String.toList_inj, String.toList_ofList, String.toList_empty, trimChars_eq_nil_iff]

lemma content?_eq_some (raw : Option String) (text : String) :
    content? raw = some text ↔
      ∃ s ∈ raw, ¬(∀ c ∈ s.toList, isBlank c = true) ∧ text = trim s := by
  simp only [content?, Option.filter_eq_some_iff, Option.map_eq_some_iff, ← trim_eq_empty_iff]
  constructor
  · rintro ⟨⟨s, hs, rfl⟩, hne⟩
    exact ⟨s, hs, by simpa using hne, rfl⟩
  · rintro ⟨s, hs, hne, rfl⟩
    exact ⟨⟨s, hs, rfl⟩, by simpa using hne⟩

end ContentHub.Text
