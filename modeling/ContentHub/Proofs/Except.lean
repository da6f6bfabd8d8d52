import Mathlib.Data.List.Forall2
import Mathlib.Tactic

namespace ContentHub

variable {ε α β : Type}

lemma bind_eq_error (x : Except ε α) (f : α → Except ε β) (e : ε) :
    (x >>= f) = .error e ↔ x = .error e ∨ ∃ a, x = .ok a ∧ f a = .error e := by
  cases x <;> simp [bind, Except.bind]

lemma bind_eq_ok (x : Except ε α) (f : α → Except ε β) (b : β) :
    (x >>= f) = .ok b ↔ ∃ a, x = .ok a ∧ f a = .ok b := by
  cases x <;> simp [bind, Except.bind]

lemma error_of_map {f : α → β} {x : Except ε α} {e : ε} (h : x.map f = .error e) :
    x = .error e := by
  cases x with
  | error _ => exact congrArg Except.error (Except.error.inj h)
  | ok _ => cases h

lemma map_eq_ok (f : α → β) (x : Except ε α) (b : β) :
    x.map f = .ok b ↔ ∃ a, x = .ok a ∧ f a = b := by
  cases x <;> simp [Except.map]

lemma map_eq_error (f : α → β) (x : Except ε α) (e : ε) : x.map f = .error e ↔ x = .error e := by
  cases x <;> simp [Except.map]

lemma mapM_eq_ok (read : α → Except ε β) (items : List α) (xs : List β) :
    items.mapM read = .ok xs ↔ List.Forall₂ (fun item x => read item = .ok x) items xs := by
  induction items generalizing xs with
  | nil => simp [pure, Except.pure, eq_comm]
  | cons item rest ih =>
    rw [List.mapM_cons, List.forall₂_cons_left_iff]
    cases hitem : read item with
    | error e => simp [bind, Except.bind]
    | ok x =>
      simp only [bind, Except.bind, Except.ok.injEq, ← ih]
      cases rest.mapM read <;> simp [pure, Except.pure, eq_comm]

lemma exists_of_mapM_ok {read : α → Except ε β} {items : List α} {xs : List β}
    (h : items.mapM read = .ok xs) : ∀ item ∈ items, ∃ x, read item = .ok x := by
  rw [mapM_eq_ok] at h
  induction h with
  | nil => simp
  | cons hitem _ ih => exact List.forall_mem_cons.mpr ⟨⟨_, hitem⟩, ih⟩

lemma exists_of_mapM_error (read : α → Except ε β) (items : List α) (e : ε)
    (h : items.mapM read = .error e) : ∃ item ∈ items, read item = .error e := by
  induction items with
  | nil => cases h
  | cons item rest ih =>
    simp only [List.mapM_cons, bind_eq_error] at h
    rcases h with hitem | ⟨x, -, hrest | ⟨xs, -, hpure⟩⟩
    · exact ⟨item, List.mem_cons_self, hitem⟩
    · obtain ⟨other, hother, hread⟩ := ih hrest
      exact ⟨other, List.mem_cons_of_mem _ hother, hread⟩
    · cases hpure

end ContentHub
