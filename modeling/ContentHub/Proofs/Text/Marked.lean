import Mathlib.Tactic

/-!
Two texts with a mark between them. The joined text does not tell which of its marks that was, so
two pairs are joined to one text exactly if they are one pair or if a piece between two marks ends
the first text of one pair and begins the second text of the other.
-/

namespace ContentHub.Text

lemma append_mark_eq_iff {α : Type} (mark : α) (s rest t other : List α) :
    s ++ mark :: rest = t ++ mark :: other ↔ s = t ∧ rest = other ∨
      (∃ piece, t = s ++ mark :: piece ∧ rest = piece ++ mark :: other) ∨
        ∃ piece, s = t ++ mark :: piece ∧ other = piece ++ mark :: rest := by
  constructor
  · intro h
    -- one of the two fronts begins with the other, and what it has more begins with the mark
    rcases List.append_eq_append_iff.mp h with ⟨more, hmore, hrest⟩ | ⟨more, hmore, hrest⟩
    · cases more with
      | nil => exact Or.inl ⟨by simpa using hmore.symm, (List.cons.inj hrest).2⟩
      | cons first piece =>
        obtain ⟨rfl, hpiece⟩ := List.cons.inj hrest
        exact Or.inr (Or.inl ⟨piece, hmore, hpiece⟩)
    · cases more with
      | nil => exact Or.inl ⟨by simpa using hmore, (List.cons.inj hrest).2.symm⟩
      | cons first piece =>
        obtain ⟨rfl, hpiece⟩ := List.cons.inj hrest
        exact Or.inr (Or.inr ⟨piece, hmore, hpiece⟩)
  · rintro (⟨rfl, rfl⟩ | ⟨piece, rfl, rfl⟩ | ⟨piece, rfl, rfl⟩)
    · rfl
    · simp
    · simp

lemma exists_piece_iff {mark : String} {c : Char} (hmark : mark.toList = [c])
    (s rest t other : String) :
    (∃ piece, t = s ++ mark ++ piece ∧ rest = piece ++ mark ++ other) ↔
      ∃ piece, t.toList = s.toList ++ c :: piece ∧ rest.toList = piece ++ c :: other.toList := by
  constructor
  · rintro ⟨piece, rfl, rfl⟩
    exact ⟨piece.toList, by simp [hmark], by simp [hmark]⟩
  · rintro ⟨piece, ht, hrest⟩
    refine ⟨String.ofList piece, ?_, ?_⟩
    · rw [← String.toList_inj, ht]
      simp [hmark]
    · rw [← String.toList_inj, hrest]
      simp [hmark]

lemma joined_eq_iff {mark : String} {c : Char} (hmark : mark.toList = [c])
    (s rest t other : String) :
    s ++ mark ++ rest = t ++ mark ++ other ↔ (s, rest) = (t, other) ∨
      (∃ piece, t = s ++ mark ++ piece ∧ rest = piece ++ mark ++ other) ∨
        ∃ piece, s = t ++ mark ++ piece ∧ other = piece ++ mark ++ rest := by
  have hjoined (s rest : String) : (s ++ mark ++ rest).toList = s.toList ++ c :: rest.toList := by
    simp [hmark]
  rw [← String.toList_inj, hjoined, hjoined, append_mark_eq_iff, exists_piece_iff hmark,
    exists_piece_iff hmark, String.toList_inj, String.toList_inj, Prod.mk.injEq]

end ContentHub.Text
