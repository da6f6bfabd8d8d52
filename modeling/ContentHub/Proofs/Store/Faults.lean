import ContentHub.Proofs.Except
import ContentHub.Proofs.Store.Rows
import Mathlib.Tactic

namespace ContentHub.Store

variable {rows : List Row} {filter : Filter} {path : List Char}

lemma follow_ok (text : List Char) (path : Path) (node : Json.Outline) :
    ∃ found, follow text (path.map fun key => .member key.toList) node = .ok found := by
  induction path generalizing node with
  | nil => exact ⟨some node, rfl⟩
  | cons key rest ih =>
    cases node with
    | object members =>
      simp only [List.map_cons, follow]
      split
      · next member _ => exact ih member.2
      · exact ⟨none, rfl⟩
    | null | text | other => exact ⟨none, rfl⟩

lemma lookUp_ok (path : Path) (hwhole : path.Whole) (hquote : path.quoting = false)
    (node : Json.Outline) :
    ∃ found, lookUp ('$' :: path.flatMap quotedLabel) node = .ok found := by
  rw [lookUp, upToNul_eq_self _ (nul_notMem_flatMap_quotedLabel path hwhole),
    pathSteps_flatMap path hquote]
  exact follow_ok _ path node

namespace Row

lemma read?_of_outline {chars : List Char} (h : Json.readOutline? chars = none) :
    Json.read? chars = none := by
  cases hread : Json.read? chars with
  | none => rfl
  | some document => simp [Json.readOutline?, hread] at h

lemma hit_error {row : Row} {e : Error} (h : row.hit = .error e) :
    e = .storage (.unreadable row.id) ∧ Json.read? row.chars = none := by
  simp only [hit, document] at h
  cases hread : Json.read? row.chars with
  | some document => simp [hread, Except.map] at h
  | none =>
    simp only [hread, Except.map, Except.error.injEq] at h
    exact ⟨h.symm, rfl⟩

lemma satisfies_error_iff (row : Row) (hwhole : filter.path.Whole)
    (hquote : filter.path.quoting = false) (fault : EngineFault) :
    row.satisfies ('$' :: filter.path.flatMap quotedLabel) filter = .error fault ↔
      fault = .malformedText ∧ Json.readOutline? row.chars = none := by
  cases hread : Json.readOutline? row.chars with
  | none => simp [satisfies, outline, hread, bind, Except.bind, eq_comm]
  | some node =>
    obtain ⟨found, hfound⟩ := lookUp_ok filter.path hwhole hquote node
    simp [satisfies, outline, hread, hfound, bind, Except.bind, pure, Except.pure]

end Row

namespace Database

lemma select_error {fault : EngineFault} (h : select path filter rows = .error fault) :
    ∃ row ∈ rows, row.satisfies path filter = .error fault := by
  induction rows with
  | nil => cases h
  | cons row rest ih =>
    simp only [select, bind_eq_error] at h
    rcases h with hrow | ⟨kept, -, hrest | ⟨others, -, hpure⟩⟩
    · exact ⟨row, List.mem_cons_self, hrow⟩
    · obtain ⟨other, hother, hfault⟩ := ih hrest
      exact ⟨other, List.mem_cons_of_mem _ hother, hfault⟩
    · cases hpure

lemma select_ok {found : List Row} (h : select path filter rows = .ok found) :
    found ⊆ rows ∧ ∀ row ∈ rows, ∃ kept, row.satisfies path filter = .ok kept := by
  induction rows generalizing found with
  | nil =>
    obtain rfl := Except.ok.inj h
    simp
  | cons row rest ih =>
    simp only [select, bind_eq_ok] at h
    obtain ⟨kept, hkept, others, hothers, hpure⟩ := h
    obtain rfl := Except.ok.inj hpure
    obtain ⟨hsubset, hrest⟩ := ih hothers
    refine ⟨?_, List.forall_mem_cons.mpr ⟨⟨kept, hkept⟩, hrest⟩⟩
    cases kept with
    | true => exact List.cons_subset_cons _ hsubset
    | false => exact List.Subset.trans hsubset (List.subset_cons_self _ _)

lemma select_unseen (hwhole : filter.path.Whole) (hquote : filter.path.quoting = false)
    (hunseen : ∃ row ∈ rows, Json.readOutline? row.chars = none) :
    select ('$' :: filter.path.flatMap quotedLabel) filter rows = .error .malformedText := by
  cases hselect : select ('$' :: filter.path.flatMap quotedLabel) filter rows with
  | error fault =>
    obtain ⟨row, -, hsatisfies⟩ := select_error hselect
    rw [((row.satisfies_error_iff hwhole hquote fault).mp hsatisfies).1]
  | ok found =>
    obtain ⟨row, hrow, hread⟩ := hunseen
    obtain ⟨kept, hkept⟩ := (select_ok hselect).2 row hrow
    have hfails := (row.satisfies_error_iff hwhole hquote .malformedText).mpr ⟨rfl, hread⟩
    cases hkept.symm.trans hfails

lemma mapM_hit_error {e : Error} (h : rows.mapM Row.hit = .error e) :
    ∃ row ∈ rows, Json.read? row.chars = none ∧ e = .storage (.unreadable row.id) := by
  obtain ⟨row, hrow, hhit⟩ := exists_of_mapM_error Row.hit rows e h
  obtain ⟨rfl, hread⟩ := Row.hit_error hhit
  exact ⟨row, hrow, hread, rfl⟩

lemma mapM_hit_unread (hunread : ∃ row ∈ rows, Json.read? row.chars = none) :
    ∃ row ∈ rows, Json.read? row.chars = none ∧
      rows.mapM Row.hit = .error (.storage (.unreadable row.id)) := by
  cases hhits : rows.mapM Row.hit with
  | error e =>
    obtain ⟨row, hrow, hread, rfl⟩ := mapM_hit_error hhits
    exact ⟨row, hrow, hread, rfl⟩
  | ok hits =>
    obtain ⟨row, hrow, hread⟩ := hunread
    obtain ⟨hit, hhit⟩ := exists_of_mapM_ok hhits row hrow
    simp [Row.hit, Row.document, hread, Except.map] at hhit

lemma rows_entries {documents : Entries Json} (h : List.Forall₂ Row.Holds rows documents) :
    (∀ row ∈ rows, ∃ entry ∈ documents, row.Holds entry) ∧
      ∀ entry ∈ documents, ∃ row ∈ rows, row.Holds entry := by
  induction h with
  | nil => simp
  | @cons row entry rows documents hrow _ ih =>
    obtain ⟨hrows, hentries⟩ := ih
    constructor
    · refine List.forall_mem_cons.mpr ⟨⟨entry, List.mem_cons_self, hrow⟩, fun other hother => ?_⟩
      obtain ⟨held, hheld, hother⟩ := hrows other hother
      exact ⟨held, List.mem_cons_of_mem _ hheld, hother⟩
    · refine List.forall_mem_cons.mpr ⟨⟨row, List.mem_cons_self, hrow⟩, fun other hother => ?_⟩
      obtain ⟨holding, hholding, hother⟩ := hentries other hother
      exact ⟨holding, List.mem_cons_of_mem _ hholding, hother⟩

lemma exists_chars_iff {documents : Entries Json} (h : List.Forall₂ Row.Holds rows documents)
    (p : List Char → Prop) :
    (∃ row ∈ rows, p row.chars) ↔ ∃ entry ∈ documents, p entry.2.chars := by
  obtain ⟨hrows, hentries⟩ := rows_entries h
  constructor
  · rintro ⟨row, hrow, hp⟩
    obtain ⟨entry, hentry, hholds⟩ := hrows row hrow
    exact ⟨entry, hentry, hholds.chars ▸ hp⟩
  · rintro ⟨entry, hentry, hp⟩
    obtain ⟨row, hrow, hholds⟩ := hentries entry hentry
    exact ⟨row, hrow, hholds.chars ▸ hp⟩

lemma mem_byTime {row : Row} : row ∈ byTime rows ↔ row ∈ rows :=
  (List.mergeSort_perm rows _).mem_iff

variable {database : Database}

lemma search_error {e : Error} (hwhole : filter.path.Whole)
    (h : database.search filter = .error e) :
    (∃ fault, e = .storage fault) ∧ ∃ row ∈ database.rows, Json.read? row.chars = none := by
  rw [search, pathText?_eq] at h
  cases hquote : filter.path.quoting with
  | true =>
    simp only [hquote, if_true, scan, bind_eq_error] at h
    rcases h with hrows | ⟨hits, -, hpure⟩
    · obtain ⟨row, hrow, hread, rfl⟩ := mapM_hit_error hrows
      exact ⟨⟨_, rfl⟩, row, mem_byTime.mp hrow, hread⟩
    · cases hpure
  | false =>
    simp only [hquote, Bool.false_eq_true, if_false] at h
    split at h
    · next found hfound =>
      obtain ⟨row, hrow, hread, rfl⟩ := mapM_hit_error (error_of_map h)
      exact ⟨⟨_, rfl⟩, row, (select_ok hfound).1 (mem_byTime.mp hrow), hread⟩
    · next fault hfault =>
      obtain ⟨row, hrow, hsatisfies⟩ := select_error hfault
      obtain ⟨-, hread⟩ := (row.satisfies_error_iff hwhole hquote fault).mp hsatisfies
      exact ⟨⟨_, (Except.error.inj h).symm⟩, row, hrow, Row.read?_of_outline hread⟩

lemma search_unseen (hwhole : filter.path.Whole) (hquote : filter.path.quoting = false)
    (hunseen : ∃ row ∈ database.rows, Json.readOutline? row.chars = none) :
    database.search filter = .error (.storage (.engine .malformedText)) := by
  simp only [search, pathText?_eq, hquote, Bool.false_eq_true, if_false,
    select_unseen hwhole hquote hunseen]

lemma search_unread (hquote : filter.path.quoting = true)
    (hunread : ∃ row ∈ database.rows, Json.read? row.chars = none) :
    ∃ fault, database.search filter = .error (.storage fault) := by
  obtain ⟨row, hrow, hread⟩ := hunread
  obtain ⟨other, -, -, hhits⟩ := mapM_hit_unread ⟨row, mem_byTime.mpr hrow, hread⟩
  simp only [search, pathText?_eq, hquote, if_true, scan, hhits]
  exact ⟨_, rfl⟩

lemma search_found_unread {documents : Entries Json} (h : database.Holds documents)
    (hwhole : filter.path.Whole) (hquote : filter.path.quoting = false)
    (hvisible : ∀ entry ∈ documents, entry.2.Visible)
    (hunread : ∃ entry ∈ documents, filter.reaches entry.2 = true ∧
      Json.read? entry.2.chars = none) :
    ∃ entry ∈ documents, filter.reaches entry.2 = true ∧ Json.read? entry.2.chars = none ∧
      database.search filter = .error (.storage (.unreadable entry.1)) := by
  obtain ⟨found, hfound, -, hholds⟩ := select_holds h hvisible filter hwhole hquote
  have hreaches : ∀ document, filter.accepts (resolveSpelled filter.path document) =
      filter.reaches document := by
    intro document
    simp [Filter.reaches, hquote]
  simp only [hreaches] at hholds
  obtain ⟨entries, hentries, hperm, -⟩ := byTime_holds hholds
  obtain ⟨entry, hentry, hreached, hread⟩ := hunread
  have hmem : entry ∈ entries :=
    hperm.mem_iff.mpr (List.mem_filter.mpr ⟨hentry, hreached⟩)
  obtain ⟨row, hrow, hread, hhits⟩ := mapM_hit_unread
    ((exists_chars_iff hentries fun chars => Json.read? chars = none).mpr ⟨entry, hmem, hread⟩)
  obtain ⟨other, hother, hrowHolds⟩ := (rows_entries hentries).1 row hrow
  obtain ⟨hstored, hotherReached⟩ := List.mem_filter.mp (hperm.mem_iff.mp hother)
  refine ⟨other, hstored, hotherReached, hrowHolds.chars ▸ hread, ?_⟩
  simp only [search, pathText?_eq, hquote, Bool.false_eq_true, if_false, hfound, hhits,
    hrowHolds.id]
  rfl

lemma exists_of_search_ok {hits : Hits} (h : database.search filter = .ok hits) :
    ∃ found, hits = .ofList found := by
  rw [search, pathText?_eq] at h
  cases hquote : filter.path.quoting with
  | true =>
    simp only [hquote, if_true, scan, bind_eq_ok] at h
    obtain ⟨found, -, hpure⟩ := h
    exact ⟨_, (Except.ok.inj hpure).symm⟩
  | false =>
    simp only [hquote, Bool.false_eq_true, if_false] at h
    split at h
    · obtain ⟨found, -, rfl⟩ := (map_eq_ok _ _ _).mp h
      exact ⟨found, rfl⟩
    · cases h

end Database

end ContentHub.Store
