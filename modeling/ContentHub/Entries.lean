/-!
Entries addressed by key. `insert` keeps them in strictly increasing key order and replaces an
earlier entry of the same key, so a list of entries built by `ofList` holds the last value of every
key once.
-/

namespace ContentHub

/-- A list of keyed values. The order of keys is that of their code points, which is also the order
of their UTF-8 bytes. -/
abbrev Entries (α : Type) := List (String × α)

namespace Entries

variable {α : Type}

def Sorted (entries : Entries α) : Prop :=
  entries.Pairwise fun a b => a.1 < b.1

def get? (key : String) : Entries α → Option α
  | [] => none
  | (k, v) :: rest => if k = key then some v else get? key rest

def insert (key : String) (value : α) : Entries α → Entries α
  | [] => [(key, value)]
  | (k, v) :: rest =>
    if key < k then (key, value) :: (k, v) :: rest
    else if key = k then (key, value) :: rest
    else (k, v) :: insert key value rest

def erase (key : String) (entries : Entries α) : Entries α :=
  entries.filter fun entry => entry.1 ≠ key

def keys (entries : Entries α) : List String :=
  entries.map Prod.fst

def ofList (entries : List (String × α)) : Entries α :=
  entries.foldl (fun sorted entry => insert entry.1 entry.2 sorted) []

theorem get?_insert_self (key : String) (value : α) (entries : Entries α) :
    get? key (insert key value entries) = some value := by
  induction entries with
  | nil => simp [insert, get?]
  | cons entry rest ih =>
    obtain ⟨k, v⟩ := entry
    unfold insert
    by_cases hlt : key < k
    · simp [hlt, get?]
    · by_cases heq : key = k
      · simp [heq, get?]
      · simp [hlt, heq, get?, Ne.symm heq, ih]

theorem get?_insert_of_ne (key other : String) (value : α) (entries : Entries α)
    (h : key ≠ other) : get? other (insert key value entries) = get? other entries := by
  induction entries with
  | nil => simp [insert, get?, h]
  | cons entry rest ih =>
    obtain ⟨k, v⟩ := entry
    unfold insert
    by_cases hlt : key < k
    · simp [hlt, get?, h]
    · by_cases heq : key = k
      · subst heq
        simp [get?, h]
      · simp only [hlt, heq, if_false, get?]
        by_cases hk : k = other <;> simp [hk, ih]

theorem mem_insert (key : String) (value : α) (entries : Entries α) (entry : String × α)
    (h : entry ∈ insert key value entries) : entry = (key, value) ∨ entry ∈ entries := by
  induction entries with
  | nil => simpa [insert] using h
  | cons head rest ih =>
    obtain ⟨k, v⟩ := head
    unfold insert at h
    split at h
    · simpa using h
    · split at h
      · rcases List.mem_cons.mp h with h | h
        · exact Or.inl h
        · exact Or.inr (List.mem_cons_of_mem _ h)
      · rcases List.mem_cons.mp h with h | h
        · exact Or.inr (h ▸ List.mem_cons_self)
        · exact (ih h).imp_right (List.mem_cons_of_mem _)

theorem sorted_nil : Sorted ([] : Entries α) := List.Pairwise.nil

theorem sorted_insert (key : String) (value : α) (entries : Entries α) (h : Sorted entries) :
    Sorted (insert key value entries) := by
  induction entries with
  | nil => simp [insert, Sorted]
  | cons head rest ih =>
    obtain ⟨k, v⟩ := head
    obtain ⟨hhead, hrest⟩ := List.pairwise_cons.mp h
    unfold insert
    by_cases hlt : key < k
    · simp only [hlt, if_true]
      refine List.pairwise_cons.mpr ⟨fun entry he => ?_, h⟩
      rcases List.mem_cons.mp he with rfl | he
      · exact hlt
      · exact String.lt_trans hlt (hhead entry he)
    · by_cases heq : key = k
      · subst heq
        simp only [String.lt_irrefl, if_false, if_true]
        exact List.pairwise_cons.mpr ⟨hhead, hrest⟩
      · simp only [hlt, heq, if_false]
        refine List.pairwise_cons.mpr ⟨fun entry he => ?_, ih hrest⟩
        rcases mem_insert key value rest entry he with rfl | he
        · by_cases hkey : k < key
          · exact hkey
          · exact absurd (String.le_antisymm (String.not_lt.mp hkey) (String.not_lt.mp hlt)) heq
        · exact hhead entry he

theorem sorted_ofList (entries : List (String × α)) : Sorted (ofList entries) := by
  have general : ∀ (pending : List (String × α)) (sorted : Entries α), Sorted sorted →
      Sorted (pending.foldl (fun sorted entry => insert entry.1 entry.2 sorted) sorted) := by
    intro pending
    induction pending with
    | nil => exact fun _ h => h
    | cons entry rest ih => exact fun sorted h => ih _ (sorted_insert _ _ _ h)
  exact general entries [] sorted_nil

end Entries

end ContentHub
