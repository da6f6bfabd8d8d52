import ContentHub.Proofs.Files.Directories
import Mathlib.Data.List.Infix
import Mathlib.Tactic

namespace ContentHub.Files

variable {files : Files}

lemma walk_eq_ok {here place : Place} {parts : List String}
    (h : files.walk here parts = .ok place) : place = parts.foldl step here := by
  induction parts generalizing here with
  | nil => exact (Except.ok.inj h).symm
  | cons part rest ih =>
    simp only [walk] at h
    split at h
    · split at h
      · cases h
      · exact ih h
    · cases h
    · cases h

lemma placeOf_of_locate {path : String} {place : Place} (h : files.locate path = .ok place) :
    files.placeOf path = place := by
  obtain ⟨-, -, -, hwalk⟩ := (locate_eq_ok_iff path place).mp h
  exact (walk_eq_ok hwalk).symm

lemma walk_cons_eq_ok {here place : Place} {part : String} {rest : List String}
    (h : files.walk here (part :: rest) = .ok place) :
    files.node? here = some .directory ∧ part.utf8ByteSize ≤ maxNameSize ∧
      files.walk (step here part) rest = .ok place := by
  simp only [walk] at h
  split at h
  · next hdirectory =>
    split at h
    · cases h
    · next hsize => exact ⟨hdirectory, by omega, h⟩
  · cases h
  · cases h

lemma walk_cons {here : Place} {part : String} (rest : List String)
    (hdirectory : files.node? here = some .directory) (hsize : part.utf8ByteSize ≤ maxNameSize) :
    files.walk here (part :: rest) = files.walk (step here part) rest := by
  have hshort : ¬maxNameSize < part.utf8ByteSize := by omega
  simp only [walk, hdirectory, hshort, if_false]

structure Reached (files : Files) (place : Place) : Prop where
  above : ∀ higher, higher <+: place → higher ≠ place → files.node? higher = some .directory
  names : ∀ name ∈ place, isIdle name = false ∧ name ≠ ".." ∧ name.utf8ByteSize ≤ maxNameSize

lemma reached_root (files : Files) : files.Reached [] := by
  refine ⟨fun higher hhigher hne => ?_, by simp⟩
  exact absurd (List.prefix_nil.mp hhigher) hne

lemma Reached.dropLast {place : Place} (h : files.Reached place) :
    files.Reached place.dropLast := by
  have hshorter := List.dropLast_prefix place
  refine ⟨fun higher hhigher hne => ?_, fun name hname => h.names name (hshorter.subset hname)⟩
  apply h.above higher (hhigher.trans hshorter)
  rintro rfl
  exact hne (hshorter.eq_of_length_le hhigher.length_le).symm

lemma Reached.append {place : Place} {name : String} (h : files.Reached place)
    (hdirectory : files.node? place = some .directory)
    (hname : isIdle name = false ∧ name ≠ ".." ∧ name.utf8ByteSize ≤ maxNameSize) :
    files.Reached (place ++ [name]) := by
  refine ⟨fun higher hhigher hne => ?_, fun other hother => ?_⟩
  · have hshorter := (List.prefix_concat_iff.mp hhigher).resolve_left hne
    by_cases hsame : higher = place
    · rwa [hsame]
    · exact h.above higher hshorter hsame
  · rcases List.mem_append.mp hother with hother | hother
    · exact h.names other hother
    · rwa [List.mem_singleton.mp hother]

lemma Reached.step {place : Place} {part : String} (h : files.Reached place)
    (hdirectory : files.node? place = some .directory) (hsize : part.utf8ByteSize ≤ maxNameSize) :
    files.Reached (Files.step place part) := by
  unfold Files.step
  split
  · exact h
  · next hidle =>
    split
    · exact h.dropLast
    · next hback => exact h.append hdirectory ⟨by simpa using hidle, hback, hsize⟩

lemma Reached.of_walk {here place : Place} {parts : List String} (h : files.Reached here)
    (hwalk : files.walk here parts = .ok place) : files.Reached place := by
  induction parts generalizing here with
  | nil => rwa [← Except.ok.inj hwalk]
  | cons part rest ih =>
    obtain ⟨hdirectory, hsize, hrest⟩ := walk_cons_eq_ok hwalk
    exact ih (h.step hdirectory hsize) hrest

lemma Reached.holder {place : Place} (h : files.Reached place) (hne : place ≠ []) :
    files.node? place.dropLast = some .directory := by
  apply h.above _ (List.dropLast_prefix place)
  intro hsame
  have hlength := congrArg List.length hsame
  have hfilled := List.length_pos_iff.mpr hne
  simp only [List.length_dropLast] at hlength
  omega

lemma Reached.keeps {place : Place} {later : Files} (h : files.Reached place)
    (hkeeps : KeepsDirectories files later) : later.Reached place :=
  ⟨fun higher hhigher hne => hkeeps.directories _ (h.above higher hhigher hne), h.names⟩

lemma Reached.walk {place : Place} (h : files.Reached place) : files.walk [] place = .ok place := by
  -- the way is split where the walk is at the moment
  have general : ∀ rest above, above ++ rest = place → files.walk above rest = .ok place := by
    intro rest
    induction rest with
    | nil =>
      rintro above rfl
      rw [List.append_nil]
      rfl
    | cons name rest ih =>
      intro above hsplit
      have hmem : name ∈ place := by simp [← hsplit]
      obtain ⟨hidle, hback, hsize⟩ := h.names name hmem
      have hdirectory : files.node? above = some .directory := by
        apply h.above above ⟨name :: rest, hsplit⟩
        rintro rfl
        simp at hsplit
      have hstep : Files.step above name = above ++ [name] := by simp [Files.step, hidle, hback]
      rw [walk_cons rest hdirectory hsize, hstep]
      apply ih
      rw [← hsplit, List.append_assoc, List.singleton_append]
  exact general place [] rfl

lemma mark_notMem_pieces (mark : Char) (s : List Char) : ∀ piece ∈ pieces mark s, mark ∉ piece := by
  induction s with
  | nil => simp [pieces]
  | cons c rest ih =>
    by_cases hc : c = mark
    · simpa [pieces, hc] using ih
    · simp only [pieces, hc, if_false]
      cases hpieces : pieces mark rest with
      | nil => exact absurd hpieces (pieces_ne_nil mark rest)
      | cons piece others =>
        rw [hpieces] at ih
        obtain ⟨hpiece, hothers⟩ := List.forall_mem_cons.mp ih
        refine List.forall_mem_cons.mpr ⟨?_, hothers⟩
        rw [List.mem_cons, not_or]
        exact ⟨Ne.symm hc, hpiece⟩

lemma pieces_of_notMem {mark : Char} {s : List Char} (h : mark ∉ s) : pieces mark s = [s] := by
  induction s with
  | nil => rfl
  | cons c rest ih =>
    obtain ⟨hc, hrest⟩ := not_or.mp (mt List.mem_cons.mpr h)
    simp [pieces, Ne.symm hc, ih hrest]

lemma pieces_intercalate (mark : Char) {parts : List (List Char)} (hne : parts ≠ [])
    (h : ∀ part ∈ parts, mark ∉ part) : pieces mark ([mark].intercalate parts) = parts := by
  induction parts with
  | nil => exact absurd rfl hne
  | cons part rest ih =>
    obtain ⟨hpart, hrest⟩ := List.forall_mem_cons.mp h
    cases rest with
    | nil => simpa [List.intercalate] using pieces_of_notMem hpart
    | cons other others =>
      have hlater := ih (List.cons_ne_nil other others) hrest
      rw [List.intercalate_cons_cons, List.append_assoc, List.singleton_append,
        pieces_append_mark, pieces_of_notMem hpart, hlater, List.singleton_append]

lemma slash_notMem_pathParts (path : String) : ∀ part ∈ pathParts path, '/' ∉ part.toList := by
  intro part hpart
  obtain ⟨piece, hpiece, rfl⟩ := List.mem_map.mp hpart
  rw [String.toList_ofList]
  exact mark_notMem_pieces '/' path.toList piece hpiece

lemma pathParts_intercalate {parts : List String} (hne : parts ≠ [])
    (h : ∀ part ∈ parts, '/' ∉ part.toList) : pathParts ("/".intercalate parts) = parts := by
  have hmark : "/".toList = ['/'] := rfl
  rw [pathParts, String.toList_intercalate, hmark, pieces_intercalate]
  · simp
  · simpa using hne
  · simpa using h

lemma pathParts_ofParts {parts : List String} (hne : parts ≠ []) (hroot : parts ≠ [""])
    (h : ∀ part ∈ parts, '/' ∉ part.toList) : pathParts (ofParts parts) = parts := by
  have hparts : ofParts parts = "/".intercalate parts := by
    unfold ofParts
    split
    · exact absurd rfl hroot
    · rfl
  rw [hparts, pathParts_intercalate hne h]

lemma isAbsolute_iff (path : String) :
    isAbsolute path = true ↔ ∃ rest, rest ≠ [] ∧ pathParts path = "" :: rest := by
  rw [isAbsolute, pathParts]
  cases path.toList with
  | nil => simp [pieces]
  | cons c s =>
    by_cases hc : c = '/'
    · have hrest : (pieces '/' s).map String.ofList ≠ [] := by
        simpa using pieces_ne_nil '/' s
      simpa [pieces, hc] using hrest
    · simp only [pieces, hc, if_false]
      cases hpieces : pieces '/' s with
      | nil => exact absurd hpieces (pieces_ne_nil '/' s)
      | cons piece others => simp [hc, ← String.toList_inj]

lemma exists_withoutIdleEnd (parts : List String) :
    ∃ idle, (∀ part ∈ idle, isIdle part = true) ∧ parts = withoutIdleEnd parts ++ idle := by
  cases parts with
  | nil => exact ⟨[], by simp, rfl⟩
  | cons first rest =>
    refine ⟨(rest.reverse.takeWhile isIdle).reverse, fun part hpart => ?_, ?_⟩
    · exact List.mem_takeWhile_imp (List.mem_reverse.mp hpart)
    · rw [withoutIdleEnd, List.cons_append, ← List.reverse_append,
        List.takeWhile_append_dropWhile, List.reverse_reverse]

lemma withoutIdleEnd_concat {parts : List String} {last : String} (h : isIdle last = false) :
    withoutIdleEnd (parts ++ [last]) = parts ++ [last] := by
  cases parts with
  | nil => rfl
  | cons first rest =>
    rw [List.cons_append, withoutIdleEnd, List.reverse_append, List.reverse_singleton,
      List.singleton_append, List.dropWhile_cons_of_neg (by simp [h]), List.reverse_cons,
      List.reverse_reverse]

lemma parentParts?_concat {parts : List String} {last : String} (hlast : isIdle last = false)
    (hne : parts ≠ []) : parentParts? (parts ++ [last]) = some (withoutIdleEnd parts) := by
  have hend : (parts ++ [last]).dropLast = parts := List.dropLast_concat
  rw [parentParts?, withoutIdleEnd_concat hlast]
  split
  · next hnil => simp at hnil
  · next hsingle =>
    rw [hsingle] at hend
    exact absurd hend.symm hne
  · rw [hend]

lemma walk_idle {here : Place} (hdirectory : files.node? here = some .directory)
    {parts : List String} (h : ∀ part ∈ parts, isIdle part = true) :
    files.walk here parts = .ok here := by
  induction parts with
  | nil => rfl
  | cons part rest ih =>
    obtain ⟨hpart, hrest⟩ := List.forall_mem_cons.mp h
    have hsize : part.utf8ByteSize ≤ maxNameSize := by
      simp only [isIdle, Bool.or_eq_true, beq_iff_eq] at hpart
      rcases hpart with rfl | rfl <;> decide
    rw [walk_cons rest hdirectory hsize, step, if_pos hpart, ih hrest]

lemma isAbsolute_ofParts {path last : String} {above kept : List String}
    (hparts : pathParts path = above ++ [last]) (hkept : kept ≠ []) (hhead : kept <+: above)
    (hroot : kept ≠ [""]) (hslash : ∀ part ∈ kept, '/' ∉ part.toList) :
    isAbsolute (ofParts kept) = isAbsolute path := by
  obtain ⟨idle, rfl⟩ := hhead
  obtain ⟨first, rest, rfl⟩ := List.exists_cons_of_ne_nil hkept
  rw [Bool.eq_iff_iff, isAbsolute_iff, isAbsolute_iff, pathParts_ofParts hkept hroot hslash, hparts]
  constructor
  · rintro ⟨others, -, hfirst⟩
    obtain ⟨rfl, rfl⟩ := List.cons.inj hfirst
    exact ⟨rest ++ idle ++ [last], by simp, by simp⟩
  · rintro ⟨others, -, hfirst⟩
    obtain ⟨rfl, -⟩ := List.cons.inj hfirst
    refine ⟨rest, ?_, rfl⟩
    rintro rfl
    exact hroot rfl

lemma walk_above {path last : String} {above : List String}
    (hparts : pathParts path = above ++ [last]) (hlast : isIdle last = false)
    (hparent : ∀ parent, parent? path = some parent →
      parent.isEmpty = true ∨ files.isDirectory parent = true)
    (hcurrent : files.node? files.current = some .directory) :
    ∃ directory, files.walk (if isAbsolute path then [] else files.current) above = .ok directory ∧
      files.node? directory = some .directory := by
  cases habove : above with
  | nil =>
    have hrelative : isAbsolute path = false := by
      rw [Bool.eq_false_iff, ne_eq, isAbsolute_iff, hparts, habove]
      rintro ⟨rest, hrest, heq⟩
      obtain ⟨-, rfl⟩ := List.cons.inj heq
      exact hrest rfl
    exact ⟨files.current, by simp [hrelative, walk], hcurrent⟩
  | cons first rest =>
    rw [← habove]
    have hne : above ≠ [] := by simp [habove]
    obtain ⟨idle, hidle, hsplit⟩ := exists_withoutIdleEnd above
    generalize hkept : withoutIdleEnd above = kept at hsplit
    have hkeptne : kept ≠ [] := by
      rw [← hkept, habove, withoutIdleEnd]
      exact List.cons_ne_nil _ _
    have hslash : ∀ part ∈ kept, '/' ∉ part.toList := fun part hpart =>
      slash_notMem_pathParts path part (by simp [hparts, hsplit, hpart])
    have hparts' : parent? path = some (ofParts kept) := by
      rw [parent?, hparts, parentParts?_concat hlast hne, hkept, Option.map_some]
    by_cases hroot : kept = [""]
    · have habsolute : isAbsolute path = true := by
        rw [isAbsolute_iff, hparts, hsplit, hroot]
        exact ⟨idle ++ [last], by simp, rfl⟩
      refine ⟨[], ?_, rfl⟩
      rw [habsolute, if_pos rfl]
      apply walk_idle rfl
      rw [hsplit, hroot]
      exact List.forall_mem_cons.mpr ⟨rfl, hidle⟩
    · have hpath : pathParts (ofParts kept) = kept := pathParts_ofParts hkeptne hroot hslash
      have hfilled : (ofParts kept).isEmpty = false := by
        by_contra hempty
        have hnothing : ofParts kept = "" := by simpa using hempty
        rw [hnothing] at hpath
        exact hroot hpath.symm
      have hdirectory := (hparent _ hparts').resolve_left (by simp [hfilled])
      obtain ⟨directory, hlocate, hnode⟩ := (isDirectory_iff _).mp hdirectory
      obtain ⟨-, -, -, hwalk⟩ := (locate_eq_ok_iff _ directory).mp hlocate
      rw [hpath, isAbsolute_ofParts hparts hkeptne ⟨idle, hsplit.symm⟩ hroot hslash] at hwalk
      refine ⟨directory, ?_, hnode⟩
      rw [hsplit, walk_append, hwalk]
      exact walk_idle hnode hidle

end ContentHub.Files
