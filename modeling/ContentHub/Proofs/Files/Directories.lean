import ContentHub.Files.Basic
import Mathlib.Data.List.TakeWhile
import Mathlib.Tactic

namespace ContentHub.Files

lemma node?_remove_self (place : Place) (files : Files) (h : place ≠ []) :
    (files.remove place).node? place = none := by
  have hlookup : (files.nodes.filter fun entry => entry.1 ≠ place).lookup place = none := by
    refine List.lookup_eq_none_iff.mpr fun entry he => ?_
    have hne : entry.1 ≠ place := by simpa using (List.mem_filter.mp he).2
    simpa using hne.symm
  simpa [node?, remove, h] using hlookup

lemma node?_remove (place other : Place) (files : Files) :
    (files.remove place).node? other = files.node? other ∨
      (files.remove place).node? other = none := by
  by_cases h : other = place
  · subst h
    by_cases hroot : other = []
    · exact Or.inl (by simp [node?, hroot])
    · exact Or.inr (node?_remove_self other files hroot)
  · exact Or.inl (node?_remove_of_ne place other files h)

structure KeepsDirectories (files later : Files) : Prop where
  current : later.current = files.current
  directories : ∀ place, files.node? place = some .directory → later.node? place = some .directory

lemma KeepsDirectories.trans {files made later : Files} (h : KeepsDirectories files made)
    (hl : KeepsDirectories made later) : KeepsDirectories files later :=
  ⟨hl.current.trans h.current, fun place hp => hl.directories place (h.directories place hp)⟩

structure Grown (files later : Files) : Prop where
  current : later.current = files.current
  nodes : ∀ place, later.node? place = files.node? place ∨
    files.node? place = none ∧ later.node? place = some .directory

lemma Grown.refl (files : Files) : Grown files files :=
  ⟨rfl, fun _ => Or.inl rfl⟩

lemma Grown.trans {files made later : Files} (h : Grown files made) (hl : Grown made later) :
    Grown files later := by
  refine ⟨hl.current.trans h.current, fun place => ?_⟩
  rcases h.nodes place with hm | ⟨hnone, hm⟩ <;> rcases hl.nodes place with hn | ⟨hnone', hn⟩
  · exact Or.inl (hn.trans hm)
  · exact Or.inr ⟨hm ▸ hnone', hn⟩
  · exact Or.inr ⟨hnone, hn.trans hm⟩
  · exact absurd (hm.symm.trans hnone') (by simp)

lemma Grown.keepsDirectories {files later : Files} (h : Grown files later) :
    KeepsDirectories files later := by
  refine ⟨h.current, fun place hp => ?_⟩
  rcases h.nodes place with hn | ⟨hnone, -⟩
  · exact hn.trans hp
  · exact absurd (hp.symm.trans hnone) (by simp)

lemma grown_put (place : Place) (files : Files) (h : files.node? place = none) :
    Grown files (files.put place .directory) := by
  refine ⟨rfl, fun other => ?_⟩
  by_cases ho : other = place
  · subst ho
    have hroot : other ≠ [] := fun hr => by simp [node?, hr] at h
    exact Or.inr ⟨h, node?_put_self other .directory files hroot⟩
  · exact Or.inl (node?_put_of_ne place other .directory files ho)

variable {files later : Files}

lemma walk_append (here : Place) (parts rest : List String) :
    files.walk here (parts ++ rest) =
      (files.walk here parts).bind fun place => files.walk place rest := by
  induction parts generalizing here with
  | nil => rfl
  | cons part parts ih =>
    simp only [List.cons_append, walk]
    split
    · split
      · rfl
      · exact ih (step here part)
    · rfl
    · rfl

lemma walk_of_keepsDirectories (h : KeepsDirectories files later) (here place : Place)
    (parts : List String) (hw : files.walk here parts = .ok place) :
    later.walk here parts = .ok place := by
  induction parts generalizing here with
  | nil => exact hw
  | cons part parts ih =>
    simp only [walk] at hw ⊢
    split at hw
    · rename_i hdir
      rw [h.directories here hdir]
      split at hw
      · cases hw
      · rename_i hsize
        simpa [hsize] using ih _ hw
    · cases hw
    · cases hw

lemma walk_replicate_empty (here place : Place) (k : ℕ)
    (h : files.walk here (List.replicate k "") = .ok place) : place = here := by
  induction k with
  | zero => simpa [walk] using h.symm
  | succ k ih =>
    simp only [List.replicate_succ, walk] at h
    split at h
    · exact ih (by simpa [step, isIdle] using h)
    · cases h
    · cases h

lemma walk_replicate_empty_of_directory (here : Place) (k : ℕ)
    (h : files.node? here = some .directory) :
    files.walk here (List.replicate k "") = .ok here := by
  induction k with
  | zero => rfl
  | succ k ih => simpa [List.replicate_succ, walk, h, step, isIdle, maxNameSize] using ih

lemma pieces_ne_nil (mark : Char) (s : List Char) : pieces mark s ≠ [] := by
  cases s with
  | nil => simp [pieces]
  | cons c s =>
    simp only [pieces]
    split
    · simp
    · split <;> simp

lemma pieces_append_mark (mark : Char) (s t : List Char) :
    pieces mark (s ++ mark :: t) = pieces mark s ++ pieces mark t := by
  induction s with
  | nil => simp [pieces]
  | cons c s ih =>
    by_cases hc : c = mark
    · simp [pieces, hc, ih]
    · simp only [List.cons_append, pieces, hc, if_false, ih]
      cases hp : pieces mark s with
      | nil => exact absurd hp (pieces_ne_nil mark s)
      | cons piece others => rfl

lemma pieces_append_replicate (mark : Char) (s : List Char) (k : ℕ) :
    pieces mark (s ++ List.replicate k mark) = pieces mark s ++ List.replicate k [] := by
  induction k generalizing s with
  | zero => simp
  | succ k ih =>
    have hmark : s ++ List.replicate (k + 1) mark = (s ++ [mark]) ++ List.replicate k mark := by
      simp [List.replicate_succ]
    rw [hmark, ih, pieces_append_mark]
    simp [pieces, List.replicate_succ]

lemma exists_finalSlashes (path : String) :
    ∃ k, path = withoutFinalSlashes path ++ String.ofList (List.replicate k '/') := by
  have hsplit := List.takeWhile_append_dropWhile (p := (· == '/')) (l := path.toList.reverse)
  have hall : ∀ c ∈ path.toList.reverse.takeWhile (· == '/'), c = '/' := fun c hc => by
    simpa using List.mem_takeWhile_imp hc
  obtain ⟨k, hk⟩ : ∃ k, path.toList.reverse.takeWhile (· == '/') = List.replicate k '/' :=
    ⟨_, List.eq_replicate_of_mem hall⟩
  refine ⟨k, String.toList_inj.mp ?_⟩
  have hreverse := congrArg List.reverse hsplit
  rw [hk, List.reverse_append, List.reverse_reverse, List.reverse_replicate] at hreverse
  simp [withoutFinalSlashes, hreverse]

lemma locate_eq_ok_iff (path : String) (place : Place) :
    files.locate path = .ok place ↔ path.isEmpty = false ∧ '\x00' ∉ path.toList ∧
      path.utf8ByteSize ≤ maxPathSize ∧
      files.walk (if isAbsolute path then [] else files.current) (pathParts path) = .ok place := by
  simp only [locate]
  split_ifs <;> simp_all

lemma locate_append_slashes (path : String) (k : ℕ) (place : Place) (hne : path.isEmpty = false)
    (hsize : (path ++ String.ofList (List.replicate k '/')).utf8ByteSize ≤ maxPathSize) :
    files.locate (path ++ String.ofList (List.replicate k '/')) = .ok place ↔
      files.locate path = .ok place ∧ files.walk place (List.replicate k "") = .ok place := by
  have hparts : pathParts (path ++ String.ofList (List.replicate k '/')) =
      pathParts path ++ List.replicate k "" := by
    simp [pathParts, pieces_append_replicate]
  have habsolute : isAbsolute (path ++ String.ofList (List.replicate k '/')) = isAbsolute path := by
    have hchars : path.toList ≠ [] := by simpa using hne
    simp [isAbsolute, List.head?_append_of_ne_nil _ hchars]
  have hsize' : path.utf8ByteSize ≤ maxPathSize := by
    rw [String.utf8ByteSize_append] at hsize
    omega
  rw [locate_eq_ok_iff, locate_eq_ok_iff, hparts, habsolute, walk_append]
  constructor
  · rintro ⟨-, hnul, -, hw⟩
    obtain ⟨mid, hmid, hrest⟩ : ∃ mid, files.walk (if isAbsolute path then [] else files.current)
        (pathParts path) = .ok mid ∧ files.walk mid (List.replicate k "") = .ok place := by
      cases hp : files.walk (if isAbsolute path then [] else files.current) (pathParts path) with
      | error fault => simp [hp, Except.bind] at hw
      | ok mid => exact ⟨mid, rfl, by simpa [hp, Except.bind] using hw⟩
    obtain rfl := walk_replicate_empty mid place k hrest
    exact ⟨⟨hne, fun h => hnul (by simp [h]), hsize', hmid⟩, hrest⟩
  · rintro ⟨⟨-, hnul, -, hw⟩, hrest⟩
    refine ⟨?_, by simp [hnul], hsize, by simp [hw, hrest, Except.bind]⟩
    have hpath : path ≠ "" := by simpa using hne
    simp [hpath]

lemma isDirectory_iff (path : String) :
    files.isDirectory path = true ↔
      ∃ place, files.locate path = .ok place ∧ files.node? place = some .directory := by
  simp only [isDirectory, find]
  cases hl : files.locate path with
  | error fault => simp [Except.bind]
  | ok place =>
    cases hn : files.node? place with
    | none => simp [Except.bind, hn]
    | some node => cases node <;> simp [Except.bind, hn]

lemma isDirectory_of_keepsDirectories (h : KeepsDirectories files later) (path : String)
    (hd : files.isDirectory path = true) : later.isDirectory path = true := by
  obtain ⟨place, hl, hn⟩ := (isDirectory_iff path).mp hd
  obtain ⟨hne, hnul, hsize, hw⟩ := (locate_eq_ok_iff path place).mp hl
  refine (isDirectory_iff path).mpr ⟨place, ?_, h.directories place hn⟩
  rw [locate_eq_ok_iff, h.current]
  exact ⟨hne, hnul, hsize, walk_of_keepsDirectories h _ place _ hw⟩

lemma root_of_isEmpty (path : String) (hne : path.isEmpty = false)
    (h : (withoutFinalSlashes path).isEmpty = true) :
    path.toList.all (· == '/') ∧ isAbsolute path := by
  obtain ⟨k, hk⟩ := exists_finalSlashes path
  have hempty : withoutFinalSlashes path = "" := by simpa using h
  have hchars : path.toList = List.replicate k '/' := by
    simpa [hempty] using congrArg String.toList hk
  cases k with
  | zero =>
    have hpath : path = "" := by simpa using hchars
    exact absurd hne (by simp [hpath])
  | succ k => simp [isAbsolute, hchars, List.replicate_succ]

lemma makeDirectory_of_isDirectory (path : String) (h : files.isDirectory path = true) :
    makeDirectory path files = .error .alreadyExists := by
  obtain ⟨place, hl, hn⟩ := (isDirectory_iff path).mp h
  obtain ⟨hne, -, hsize, -⟩ := (locate_eq_ok_iff path place).mp hl
  simp only [makeDirectory]
  rw [if_neg (by omega)]
  split
  · rfl
  · rename_i hslashes
    have hkept : (withoutFinalSlashes path).isEmpty = false := by
      by_contra hempty
      exact hslashes (root_of_isEmpty path hne (by simpa using hempty))
    obtain ⟨k, hk⟩ := exists_finalSlashes path
    have hlocate := ((locate_append_slashes (withoutFinalSlashes path) k place hkept
      (hk ▸ hsize)).mp (hk ▸ hl)).1
    simp [hlocate, Except.bind, hn]

lemma makeDirectory_eq_ok (path : String) (made : Files) (h : makeDirectory path files = .ok made) :
    path.utf8ByteSize ≤ maxPathSize ∧ ∃ place, files.locate (withoutFinalSlashes path) = .ok place ∧
      files.node? place = none ∧ made = files.put place .directory := by
  simp only [makeDirectory] at h
  split at h
  · cases h
  · rename_i hsize
    split at h
    · cases h
    · refine ⟨by omega, ?_⟩
      cases hl : files.locate (withoutFinalSlashes path) with
      | error fault => simp [hl, Except.bind] at h
      | ok place =>
        simp only [hl, Except.bind] at h
        split at h
        · cases h
        · rename_i hnone
          split at h
          · exact ⟨place, rfl, hnone, by simpa using h.symm⟩
          · cases h
          · cases h

lemma grown_of_makeDirectory (path : String) (made : Files)
    (h : makeDirectory path files = .ok made) : Grown files made := by
  obtain ⟨-, place, -, hnone, rfl⟩ := makeDirectory_eq_ok path made h
  exact grown_put place files hnone

lemma isDirectory_of_makeDirectory (path : String) (made : Files)
    (h : makeDirectory path files = .ok made) : made.isDirectory path = true := by
  have hgrown := grown_of_makeDirectory path made h
  obtain ⟨hsize, place, hl, hnone, rfl⟩ := makeDirectory_eq_ok path made h
  have hroot : place ≠ [] := fun hr => by simp [node?, hr] at hnone
  have hput := node?_put_self place .directory files hroot
  refine (isDirectory_iff path).mpr ⟨place, ?_, hput⟩
  obtain ⟨hne, hnul, hshort, hw⟩ := (locate_eq_ok_iff _ place).mp hl
  have hl' : (files.put place .directory).locate (withoutFinalSlashes path) = .ok place := by
    rw [locate_eq_ok_iff]
    exact ⟨hne, hnul, hshort, walk_of_keepsDirectories hgrown.keepsDirectories _ _ _ hw⟩
  obtain ⟨k, hk⟩ := exists_finalSlashes path
  rw [hk]
  refine (locate_append_slashes _ k place hne (hk ▸ hsize)).mpr ⟨hl', ?_⟩
  exact walk_replicate_empty_of_directory place k hput

lemma grown_of_makeChain (chain : List String) (files : Files) :
    Grown files (makeChain chain files).1 := by
  induction chain with
  | nil => exact Grown.refl files
  | cons path above ih =>
    simp only [makeChain]
    split
    · exact Grown.refl files
    · split
      · rename_i made hmade
        exact grown_of_makeDirectory path made hmade
      · split
        · rename_i made fault habove
          rwa [habove] at ih
        · rename_i made habove
          rw [habove] at ih
          split
          · rename_i last hlast
            exact ih.trans (grown_of_makeDirectory path last hlast)
          · exact ih
      · exact Grown.refl files

lemma isDirectory_of_makeChain (path : String) (above : List String) (made : Files)
    (h : makeChain (path :: above) files = (made, none)) :
    path.isEmpty = true ∨ made.isDirectory path = true := by
  simp only [makeChain] at h
  split at h
  · rename_i hempty
    exact Or.inl hempty
  · right
    split at h
    · rename_i made' hmade
      obtain rfl : made' = made := by simpa using h
      exact isDirectory_of_makeDirectory path made' hmade
    · split at h
      · simp at h
      · split at h
        · rename_i last hlast
          obtain rfl : last = made := by simpa using h
          exact isDirectory_of_makeDirectory path last hlast
        · obtain ⟨rfl, hd⟩ := by simpa using h
          exact hd
    · obtain ⟨rfl, hd⟩ := by simpa using h
      exact hd

lemma makeDirectories_of_isDirectory (path : String)
    (h : path.isEmpty = true ∨ files.isDirectory path = true) :
    makeDirectories path files = (files, none) := by
  simp only [makeDirectories, selfAndAncestors, makeChain]
  rcases h with h | h
  · simp [h]
  · simp [h, makeDirectory_of_isDirectory path h]

end ContentHub.Files
