import ContentHub.Proofs.Json.Storable
import ContentHub.Proofs.Store.Walk
import ContentHub.Store.Collection
import ContentHub.Store.Database
import Mathlib.Data.List.Forall2
import Mathlib.Tactic

namespace ContentHub.Store

structure Row.Holds (row : Row) (entry : String × Json) : Prop where
  id : row.id = entry.1
  text : row.text = entry.2.print
  named : ∃ provider, Provider.ofDocument entry.2 = .ok provider ∧ row.name = provider.name

def Database.Holds (database : Database) (documents : Entries Json) : Prop :=
  List.Forall₂ Row.Holds database.rows documents

def hitOf (entry : String × Json) : Hit :=
  ⟨entry.1, entry.2⟩

def hitsWhere (admitted : Json → Bool) (documents : Entries Json) : Hits :=
  .ofList ((documents.filter fun entry => admitted entry.2).map hitOf)

/-- Whether a search of the engine finds a document: paths with a quotation mark are followed on the
document itself, all others by its cut keys. -/
def Filter.finds (filter : Filter) (document : Json) : Bool :=
  if filter.path.quoting then filter.admits document
  else filter.accepts (resolveCut filter.path document)

/-- Whether the engine comes to a value that satisfies a filter, whatever its labels spell. -/
def Filter.reaches (filter : Filter) (document : Json) : Bool :=
  if filter.path.quoting then filter.admits document
  else filter.accepts (resolveSpelled filter.path document)

lemma reaches_of_plain {filter : Filter} (h : filter.path.Plain) :
    filter.reaches = filter.finds := by
  funext document
  simp [Filter.reaches, Filter.finds, resolveSpelled_of_plain filter.path h]

lemma reaches_of_quoting {filter : Filter} (h : filter.path.quoting = true) :
    filter.reaches = filter.admits := by
  funext document
  simp [Filter.reaches, h]

lemma finds_of_quoting {filter : Filter} (h : filter.path.quoting = true) :
    filter.finds = filter.admits := by
  funext document
  simp [Filter.finds, h]

namespace Row

variable {row : Row} {entry : String × Json}

lemma Holds.chars (h : row.Holds entry) : row.chars = entry.2.chars := by
  rw [Row.chars, h.text, Json.print, String.toList_ofList]
  exact upToNul_eq_self _ (Json.nul_notMem_chars entry.2)

lemma Holds.document (h : row.Holds entry) (hstorable : entry.2.Storable) :
    row.document = .ok entry.2 := by
  simp [Row.document, h.chars, hstorable.readsBack, hstorable.normal]

lemma Holds.outline (h : row.Holds entry) (hvisible : entry.2.Visible) :
    row.outline = .ok entry.2.outline := by
  simp [Row.outline, h.chars, hvisible.seen]

lemma Holds.hit (h : row.Holds entry) (hstorable : entry.2.Storable) :
    row.hit = .ok (hitOf entry) := by
  simp [Row.hit, h.document hstorable, h.id, hitOf, Except.map]

lemma Holds.satisfies (h : row.Holds entry) (hvisible : entry.2.Visible) (filter : Filter)
    (hwhole : filter.path.Whole) (hquote : filter.path.quoting = false) :
    row.satisfies ('$' :: filter.path.flatMap quotedLabel) filter =
      .ok (filter.accepts (resolveSpelled filter.path entry.2)) := by
  simp only [Row.satisfies, h.outline hvisible, bind, Except.bind, lookUp_outline _ hwhole hquote,
    acceptsOutline_map_outline]
  rfl

end Row

namespace Database

variable {rows : List Row} {database : Database} {documents : Entries Json}

lemma holds_nil : Database.Holds {} [] :=
  List.Forall₂.nil

lemma accepted_of_holds (h : List.Forall₂ Row.Holds rows documents) :
    ∀ entry ∈ documents, ∃ provider, Provider.ofDocument entry.2 = .ok provider := by
  induction h with
  | nil => simp
  | cons hrow _ ih =>
    obtain ⟨provider, haccepted, -⟩ := hrow.named
    exact List.forall_mem_cons.mpr ⟨⟨provider, haccepted⟩, ih⟩

lemma insert_holds (h : database.Holds documents) (id stamp : String) (document : Json)
    (provider : Provider) (haccepted : Provider.ofDocument document = .ok provider) :
    ∃ extended, database.insert id stamp document = .ok extended ∧
      extended.Holds (documents ++ [(id, document)]) := by
  refine ⟨_, by rw [Database.insert, haccepted]; rfl, List.rel_append h ?_⟩
  exact .cons ⟨rfl, rfl, provider, haccepted, rfl⟩ .nil

lemma insert_refused (database : Database) (id stamp : String) (document : Json) (e : Error)
    (hrefused : Provider.ofDocument document = .error e) :
    database.insert id stamp document = .error e := by
  rw [Database.insert, hrefused]
  rfl

lemma find?_holds (h : List.Forall₂ Row.Holds rows documents) (id : String) :
    (rows.find? (fun row => row.id == id) = none ∧ Entries.get? id documents = none) ∨
      ∃ row document, rows.find? (fun row => row.id == id) = some row ∧
        Entries.get? id documents = some document ∧ row.Holds (id, document) := by
  induction h with
  | nil => exact Or.inl ⟨rfl, rfl⟩
  | @cons row entry rows documents hrow _ ih =>
    obtain ⟨key, document⟩ := entry
    have hkey : row.id = key := hrow.id
    by_cases hid : key = id
    · subst hid
      exact Or.inr ⟨row, document, by simp [hkey], by simp [Entries.get?], hrow⟩
    · simpa [Entries.get?, hkey, hid] using ih

lemma get?_holds (h : database.Holds documents) (id : String)
    (hstorable : ∀ entry ∈ documents, entry.2.Storable) :
    database.get? id = .ok (Entries.get? id documents) := by
  rcases find?_holds h id with ⟨hrow, hget⟩ | ⟨row, document, hrow, hget, hholds⟩
  · simp [Database.get?, Database.row?, hrow, hget]
  · have hdocument := hstorable _ (Entries.mem_of_get? id documents document hget)
    simp [Database.get?, Database.row?, hrow, hget, hholds.document hdocument, Except.map]

lemma row?_holds (h : database.Holds documents) (id : String) :
    (database.row? id).isSome = (Entries.get? id documents).isSome := by
  rcases find?_holds h id with ⟨hrow, hget⟩ | ⟨row, document, hrow, hget, -⟩ <;>
    simp [Database.row?, hrow, hget]

lemma erase_holds (h : database.Holds documents) (id : String) :
    (database.erase id).Holds (Entries.erase id documents) := by
  refine List.rel_filter (fun row entry hrow => ?_) h
  simp [hrow.id]

lemma mapM_hit_holds (h : List.Forall₂ Row.Holds rows documents)
    (hstorable : ∀ entry ∈ documents, entry.2.Storable) :
    rows.mapM Row.hit = .ok (documents.map hitOf) := by
  induction h with
  | nil => rfl
  | @cons row entry rows documents hrow _ ih =>
    obtain ⟨hentry, hrest⟩ := List.forall_mem_cons.mp hstorable
    rw [List.mapM_cons, hrow.hit hentry, ih hrest]
    rfl

def InTimeOrder (rows : List Row) : Prop :=
  rows.Pairwise fun row other => row.stamp ≤ other.stamp

lemma byTime_holds (h : List.Forall₂ Row.Holds rows documents) :
    ∃ entries, List.Forall₂ Row.Holds (byTime rows) entries ∧ entries.Perm documents ∧
      (InTimeOrder rows → entries = documents) := by
  by_cases horder : InTimeOrder rows
  · have hsame : byTime rows = rows :=
      List.mergeSort_of_pairwise (horder.imp fun hle => decide_eq_true hle)
    exact ⟨documents, hsame.symm ▸ h, .refl _, fun _ => rfl⟩
  · obtain ⟨entries, hentries, hperm⟩ :=
      List.perm_comp_forall₂ (List.mergeSort_perm rows _) h
    exact ⟨entries, hentries, hperm, fun hin => absurd hin horder⟩

def Found (admitted : Json → Bool) (rows : List Row) (documents : Entries Json) (hits : Hits) :
    Prop :=
  ∃ entries, hits = .ofList (entries.map hitOf) ∧
    entries.Perm (documents.filter fun entry => admitted entry.2) ∧
      (InTimeOrder rows → entries = documents.filter fun entry => admitted entry.2)

lemma mapM_byTime (h : List.Forall₂ Row.Holds rows documents)
    (hstorable : ∀ entry ∈ documents, entry.2.Storable) :
    ∃ entries, (byTime rows).mapM Row.hit = .ok (entries.map hitOf) ∧ entries.Perm documents ∧
      (InTimeOrder rows → entries = documents) := by
  obtain ⟨entries, hentries, hperm, horder⟩ := byTime_holds h
  have hread : ∀ entry ∈ entries, entry.2.Storable :=
    fun entry hentry => hstorable entry (hperm.mem_iff.mp hentry)
  exact ⟨entries, mapM_hit_holds hentries hread, hperm, horder⟩

lemma scan_holds (h : database.Holds documents)
    (hstorable : ∀ entry ∈ documents, entry.2.Storable) (filter : Filter) :
    ∃ hits, database.scan filter = .ok hits ∧
      Found filter.admits database.rows documents hits := by
  obtain ⟨entries, hrows, hperm, horder⟩ := mapM_byTime h hstorable
  have hfilter : (entries.map hitOf).filter (fun hit => filter.admits hit.source) =
      (entries.filter fun entry => filter.admits entry.2).map hitOf := by
    rw [List.filter_map]
    rfl
  refine ⟨.ofList ((entries.filter fun entry => filter.admits entry.2).map hitOf), ?_, _, rfl,
    hperm.filter _, fun hin => by rw [horder hin]⟩
  rw [Database.scan, hrows, ← hfilter]
  rfl

lemma select_holds (h : List.Forall₂ Row.Holds rows documents)
    (hvisible : ∀ entry ∈ documents, entry.2.Visible) (filter : Filter)
    (hwhole : filter.path.Whole) (hquote : filter.path.quoting = false) :
    ∃ found, select ('$' :: filter.path.flatMap quotedLabel) filter rows = .ok found ∧
      found.Sublist rows ∧ List.Forall₂ Row.Holds found
        (documents.filter fun entry => filter.accepts (resolveSpelled filter.path entry.2)) := by
  induction h with
  | nil => exact ⟨[], rfl, .slnil, .nil⟩
  | @cons row entry rows documents hrow _ ih =>
    obtain ⟨hentry, hrest⟩ := List.forall_mem_cons.mp hvisible
    obtain ⟨found, hfound, hsublist, hholds⟩ := ih hrest
    simp only [select, hrow.satisfies hentry filter hwhole hquote, hfound, bind, Except.bind,
      List.filter_cons]
    split
    · exact ⟨row :: found, rfl, hsublist.cons_cons row, .cons hrow hholds⟩
    · exact ⟨found, rfl, hsublist.cons row, hholds⟩

lemma search_holds (h : database.Holds documents) (filter : Filter) (hwhole : filter.path.Whole)
    (hvisible : ∀ entry ∈ documents, entry.2.Visible)
    (hstorable : ∀ entry ∈ documents,
      filter.path.quoting = true ∨ filter.reaches entry.2 = true → entry.2.Storable) :
    ∃ hits, database.search filter = .ok hits ∧
      Found filter.reaches database.rows documents hits := by
  rw [Database.search, pathText?_eq]
  by_cases hquote : filter.path.quoting = true
  · simp only [hquote, if_true, reaches_of_quoting hquote]
    exact scan_holds h (fun entry hentry => hstorable entry hentry (Or.inl hquote)) filter
  · rw [Bool.not_eq_true] at hquote
    obtain ⟨found, hfound, hsublist, hholds⟩ := select_holds h hvisible filter hwhole hquote
    have hreaches : filter.reaches = fun document =>
        filter.accepts (resolveSpelled filter.path document) := by
      funext document
      simp [Filter.reaches, hquote]
    have hkept : ∀ entry ∈ documents.filter fun entry =>
        filter.accepts (resolveSpelled filter.path entry.2), entry.2.Storable := by
      intro entry hentry
      obtain ⟨hmem, haccepts⟩ := List.mem_filter.mp hentry
      exact hstorable entry hmem (Or.inr (hreaches ▸ haccepts))
    obtain ⟨entries, hrows, hperm, horder⟩ := mapM_byTime hholds hkept
    simp only [hquote, Bool.false_eq_true, if_false, hfound, hrows, hreaches]
    exact ⟨_, rfl, entries, rfl, hperm, fun hin => horder (hin.sublist hsublist)⟩

end Database

lemma finds_eq_admits (filter : Filter) (document : Json) (h : KeysClear document) :
    filter.finds document = filter.admits document := by
  simp [Filter.finds, Filter.admits, resolveCut_eq_resolve filter.path document h]

end ContentHub.Store
