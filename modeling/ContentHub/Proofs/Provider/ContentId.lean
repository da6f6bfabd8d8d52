import ContentHub.Proofs.Text.Marked
import ContentHub.Provider.Basic
import Mathlib.Data.Set.Function
import Mathlib.Tactic

/-!
Which content ids collide. An id does not tell where its tag ends, so two pairs share an id exactly
if a piece between two hyphens is the end of one tag and the beginning of the other local id.
-/

namespace ContentHub

/-- The tag of the second pair goes on where that of the first ends, by a piece of the local id. -/
def Stretches (tag localId other otherId : String) : Prop :=
  ∃ piece, other = tag ++ "-" ++ piece ∧ localId = piece ++ "-" ++ otherId

lemma contentId_inj_iff (tag localId other otherId : String) :
    contentId tag localId = contentId other otherId ↔ (tag, localId) = (other, otherId) ∨
      Stretches tag localId other otherId ∨ Stretches other otherId tag localId :=
  Text.joined_eq_iff rfl tag localId other otherId

lemma Stretches.hyphen {tag localId other otherId : String}
    (h : Stretches tag localId other otherId) : '-' ∈ other.toList := by
  obtain ⟨piece, rfl, -⟩ := h
  simp

/-- Two pairs share an id exactly if they are one pair or one stretches to the other. So one of the
tags goes on behind the other at a hyphen, and tags without hyphens keep their ids apart. -/
theorem contentId_collides (tag localId other otherId : String) :
    (contentId tag localId = contentId other otherId ↔ (tag, localId) = (other, otherId) ∨
      Stretches tag localId other otherId ∨ Stretches other otherId tag localId) ∧
      (contentId tag localId = contentId other otherId → (tag, localId) ≠ (other, otherId) →
        (∃ piece, other = tag ++ "-" ++ piece) ∨ ∃ piece, tag = other ++ "-" ++ piece) ∧
      ∀ tags : Set String, (∀ each ∈ tags, '-' ∉ each.toList) →
        Set.InjOn (fun pair : String × String => contentId pair.1 pair.2)
          {pair | pair.1 ∈ tags} := by
  refine ⟨contentId_inj_iff tag localId other otherId, fun hsame hne => ?_, ?_⟩
  · obtain heq | ⟨piece, htag, -⟩ | ⟨piece, htag, -⟩ := (contentId_inj_iff _ _ _ _).mp hsame
    · exact absurd heq hne
    · exact Or.inl ⟨piece, htag⟩
    · exact Or.inr ⟨piece, htag⟩
  · intro tags hplain one hone two htwo hsame
    obtain heq | hstretch | hstretch := (contentId_inj_iff _ _ _ _).mp hsame
    · exact heq
    · exact absurd hstretch.hyphen (hplain two.1 htwo)
    · exact absurd hstretch.hyphen (hplain one.1 hone)

theorem contentId_collides_sample :
    contentId "blog" "post-7" = contentId "blog-post" "7" ∧
      Set.InjOn (fun pair : String × String => contentId pair.1 pair.2)
        {pair | pair.1 ∈ ({"blog", "news"} : Set String)} := by
  obtain ⟨hsame, -, hinj⟩ := contentId_collides "blog" "post-7" "blog-post" "7"
  exact ⟨hsame.mpr (Or.inr (Or.inl ⟨"post", by decide, by decide⟩)), hinj _ (by simp)⟩

end ContentHub
