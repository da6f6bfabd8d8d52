import ContentHub.Entries
import Mathlib.Data.List.Basic
import Mathlib.Tactic

namespace ContentHub.Entries

variable {α : Type}

lemma mem_of_get? (key : String) (entries : Entries α) (value : α)
    (h : get? key entries = some value) : (key, value) ∈ entries := by
  induction entries with
  | nil => simp [get?] at h
  | cons entry rest ih =>
    obtain ⟨k, v⟩ := entry
    simp only [get?] at h
    split at h
    · simp_all
    · exact List.mem_cons_of_mem _ (ih h)

lemma get?_eq_none_iff (key : String) (entries : Entries α) :
    get? key entries = none ↔ key ∉ keys entries := by
  induction entries with
  | nil => simp [get?, keys]
  | cons entry rest ih =>
    obtain ⟨k, v⟩ := entry
    by_cases hk : k = key
    · simp [get?, keys, hk]
    · simpa [get?, keys, hk, Ne.symm hk] using ih

lemma get?_filter_keys (p : String → Bool) (key : String) (entries : Entries α) :
    get? key (entries.filter fun entry => p entry.1) =
      if p key = true then get? key entries else none := by
  induction entries with
  | nil => simp [get?]
  | cons entry rest ih =>
    obtain ⟨k, v⟩ := entry
    by_cases hk : k = key
    · subst hk
      by_cases hp : p k = true <;> simp [get?, hp, ih]
    · by_cases hp : p k = true <;> simp [get?, hk, hp, ih]

lemma get?_erase_of_ne (key other : String) (entries : Entries α) (h : key ≠ other) :
    get? other (erase key entries) = get? other entries := by
  have hkept : decide (other ≠ key) = true := decide_eq_true h.symm
  rw [erase, get?_filter_keys fun name => decide (name ≠ key), if_pos hkept]

lemma get?_append (key : String) (one other : Entries α) :
    get? key (one ++ other) = (get? key one).or (get? key other) := by
  induction one with
  | nil => rfl
  | cons entry rest ih =>
    obtain ⟨k, v⟩ := entry
    by_cases hk : k = key
    · simp [get?, hk]
    · simpa [get?, hk] using ih

lemma get?_zip (names : List String) (values : List α) (hnames : names.Nodup) (i : ℕ)
    (key : String) (hkey : names[i]? = some key) : get? key (names.zip values) = values[i]? := by
  induction names generalizing values i with
  | nil => simp at hkey
  | cons name others ih =>
    obtain ⟨hname, hothers⟩ := List.nodup_cons.mp hnames
    cases values with
    | nil => rfl
    | cons value rest =>
      cases i with
      | zero =>
        obtain rfl : name = key := by simpa using hkey
        simp [get?]
      | succ i =>
        have hlater : others[i]? = some key := by simpa using hkey
        have hne : name ≠ key := fun h => hname (h ▸ List.mem_of_getElem? hlater)
        simp [get?, hne, ih rest hothers i hlater]

lemma get?_map {β : Type} (f : α → β) (key : String) (entries : Entries α) :
    get? key (entries.map fun entry => (entry.1, f entry.2)) = (get? key entries).map f := by
  induction entries with
  | nil => rfl
  | cons entry rest ih =>
    obtain ⟨k, v⟩ := entry
    by_cases hk : k = key <;> simp [get?, hk, ih]

lemma get?_insert (key name : String) (value : α) (entries : Entries α) :
    get? name (insert key value entries) =
      if key = name then some value else get? name entries := by
  by_cases hname : key = name
  · rw [if_pos hname, ← hname, get?_insert_self]
  · rw [if_neg hname, get?_insert_of_ne key name value entries hname]

lemma get?_ofList (key : String) (entries : List (String × α)) :
    get? key (ofList entries) = get? key entries.reverse := by
  have general : ∀ (pending : List (String × α)) (sorted : Entries α),
      get? key (pending.foldl (fun sorted entry => insert entry.1 entry.2 sorted) sorted) =
        (get? key pending.reverse).or (get? key sorted) := by
    intro pending
    induction pending with
    | nil => simp [get?]
    | cons entry rest ih =>
      intro sorted
      have hentry : get? key [entry] = if entry.1 = key then some entry.2 else none := rfl
      rw [List.foldl_cons, ih, get?_insert, List.reverse_cons, get?_append, hentry, Option.or_assoc]
      split <;> simp
  rw [ofList, general, get?, Option.or_none]

lemma get?_eq_some_iff {entries : Entries α} (h : (keys entries).Nodup) (key : String) (value : α) :
    get? key entries = some value ↔ (key, value) ∈ entries := by
  refine ⟨mem_of_get? key entries value, fun hmem => ?_⟩
  induction entries with
  | nil => cases hmem
  | cons entry rest ih =>
    obtain ⟨hkey, hrest⟩ := List.nodup_cons.mp h
    rcases List.mem_cons.mp hmem with rfl | hmem
    · simp [get?]
    · have hne : entry.1 ≠ key := fun hsame => hkey (hsame ▸ List.mem_map_of_mem hmem)
      rw [get?, if_neg hne, ih hrest hmem]

lemma get?_reverse {entries : Entries α} (h : (keys entries).Nodup) (key : String) :
    get? key entries.reverse = get? key entries := by
  have hreverse : (keys entries.reverse).Nodup := by
    rw [keys, List.map_reverse, List.nodup_reverse]
    exact h
  ext value
  rw [get?_eq_some_iff h, get?_eq_some_iff hreverse, List.mem_reverse]

lemma keys_append (one other : Entries α) : keys (one ++ other) = keys one ++ keys other := by
  simp [keys]

lemma sorted_iff_keys (entries : Entries α) :
    Sorted entries ↔ (keys entries).Pairwise (· < ·) := by
  rw [keys, List.pairwise_map, Sorted]

lemma Sorted.nodup_keys {entries : Entries α} (h : Sorted entries) : (keys entries).Nodup := by
  refine ((sorted_iff_keys entries).mp h).imp fun {key other} hlt heq => ?_
  exact String.lt_irrefl _ (heq ▸ hlt)

lemma eq_of_get? {entries others : Entries α} (h : Sorted entries) (ho : Sorted others)
    (hget : ∀ key, get? key entries = get? key others) : entries = others := by
  have hperm : entries.Perm others := by
    apply (List.perm_ext_iff_of_nodup h.nodup_keys.of_map ho.nodup_keys.of_map).mpr
    rintro ⟨key, value⟩
    rw [← get?_eq_some_iff h.nodup_keys, hget, get?_eq_some_iff ho.nodup_keys]
  refine hperm.eq_of_pairwise (fun one other _ _ hlt hgt => ?_) h ho
  exact absurd hlt (String.lt_asymm hgt)

lemma mem_keys_ofList (key : String) (entries : List (String × α)) :
    key ∈ keys (ofList entries) ↔ ∃ entry ∈ entries, entry.1 = key := by
  have hkeys : key ∈ keys (ofList entries) ↔ key ∈ keys entries.reverse := by
    rw [← not_iff_not, ← get?_eq_none_iff, ← get?_eq_none_iff, get?_ofList]
  rw [hkeys]
  simp [keys]

lemma get?_eq_some_iff_first (key : String) (value : α) (entries : Entries α) :
    get? key entries = some value ↔ ∃ before after, entries = before ++ (key, value) :: after ∧
      ∀ entry ∈ before, entry.1 ≠ key := by
  induction entries with
  | nil => simp [get?]
  | cons entry rest ih =>
    obtain ⟨k, v⟩ := entry
    rw [get?]
    constructor
    · split
      · next hk =>
        intro h
        obtain rfl := Option.some.inj h
        exact ⟨[], rest, by rw [hk, List.nil_append], List.forall_mem_nil _⟩
      · next hk =>
        intro h
        obtain ⟨before, after, rfl, hbefore⟩ := ih.mp h
        exact ⟨(k, v) :: before, after, rfl, List.forall_mem_cons.mpr ⟨hk, hbefore⟩⟩
    · rintro ⟨before, after, hsplit, hbefore⟩
      cases before with
      | nil =>
        obtain ⟨hentry, -⟩ := List.cons.inj hsplit
        obtain ⟨rfl, rfl⟩ := Prod.mk.inj hentry
        exact if_pos rfl
      | cons first before =>
        obtain ⟨rfl, rfl⟩ := List.cons.inj hsplit
        obtain ⟨hfirst, hlater⟩ := List.forall_mem_cons.mp hbefore
        rw [if_neg hfirst]
        exact ih.mpr ⟨before, after, rfl, hlater⟩

lemma insert_of_last (key : String) (value : α) (entries : Entries α)
    (h : ∀ entry ∈ entries, entry.1 < key) :
    insert key value entries = entries ++ [(key, value)] := by
  induction entries with
  | nil => rfl
  | cons entry rest ih =>
    obtain ⟨k, v⟩ := entry
    obtain ⟨hk, hrest⟩ := List.forall_mem_cons.mp h
    have hlt : ¬key < k := String.lt_asymm hk
    have hne : key ≠ k := by
      rintro rfl
      exact String.lt_irrefl _ hk
    simp [insert, hlt, hne, ih hrest]

lemma ofList_eq_self (entries : Entries α) (h : Sorted entries) : ofList entries = entries := by
  have general : ∀ pending sorted : Entries α, Sorted (sorted ++ pending) →
      pending.foldl (fun sorted entry => insert entry.1 entry.2 sorted) sorted =
        sorted ++ pending := by
    intro pending
    induction pending with
    | nil => simp
    | cons entry rest ih =>
      intro sorted hsorted
      have hlast : ∀ earlier ∈ sorted, earlier.1 < entry.1 := fun earlier hearlier =>
        (List.pairwise_append.mp hsorted).2.2 earlier hearlier entry List.mem_cons_self
      have hjoin : sorted ++ [entry] ++ rest = sorted ++ entry :: rest := by simp
      rw [List.foldl_cons, insert_of_last _ _ _ hlast, ih _ (hjoin ▸ hsorted), hjoin]
  exact general entries [] h

lemma mem_of_mem_ofList (entries : List (String × α)) (entry : String × α)
    (h : entry ∈ ofList entries) : entry ∈ entries := by
  have general : ∀ (pending : List (String × α)) (sorted : Entries α),
      entry ∈ pending.foldl (fun sorted entry => insert entry.1 entry.2 sorted) sorted →
        entry ∈ sorted ∨ entry ∈ pending := by
    intro pending
    induction pending with
    | nil => exact fun sorted hmem => Or.inl hmem
    | cons first rest ih =>
      intro sorted hmem
      rcases ih _ hmem with hsorted | hrest
      · rcases mem_insert _ _ _ _ hsorted with rfl | hsorted
        · exact Or.inr List.mem_cons_self
        · exact Or.inl hsorted
      · exact Or.inr (List.mem_cons_of_mem _ hrest)
  exact (general entries [] h).resolve_left List.not_mem_nil

lemma nodup_keys_append (entries : Entries α) (key : String) (value : α)
    (h : (keys entries).Nodup) (hnew : get? key entries = none) :
    (keys (entries ++ [(key, value)])).Nodup := by
  have hkeys : keys (entries ++ [(key, value)]) = keys entries ++ [key] := keys_append _ _
  rw [hkeys, ← List.concat_eq_append]
  exact h.concat ((get?_eq_none_iff key entries).mp hnew)

lemma nodup_keys_erase (entries : Entries α) (key : String) (h : (keys entries).Nodup) :
    (keys (erase key entries)).Nodup :=
  h.sublist (List.filter_sublist.map _)

end ContentHub.Entries
