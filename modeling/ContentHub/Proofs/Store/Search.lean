import ContentHub.Proofs.Store.Stamps
import Mathlib.Tactic

namespace ContentHub.Store

structure Hits.SameDocuments (one other : Hits) : Prop where
  total : one.total = other.total
  sources : one.hits.map Hit.source = other.hits.map Hit.source

section Documents

variable {documents : Entries Json}

lemma hitsWhere_congr {admitted other : Json → Bool}
    (h : ∀ entry ∈ documents, admitted entry.2 = other entry.2) :
    hitsWhere admitted documents = hitsWhere other documents := by
  rw [hitsWhere, List.filter_congr h, hitsWhere]

lemma hitOf_injective : Function.Injective hitOf := by
  rintro ⟨id, document⟩ ⟨otherId, other⟩ h
  obtain ⟨rfl, rfl⟩ := Hit.mk.inj h
  rfl

lemma hitsWhere_eq_iff (admitted other : Json → Bool) :
    hitsWhere admitted documents = hitsWhere other documents ↔
      ∀ entry ∈ documents, admitted entry.2 = other entry.2 := by
  refine ⟨fun h entry he => ?_, hitsWhere_congr⟩
  have hfilter := List.map_injective_iff.mpr hitOf_injective (Hits.mk.inj h).2
  have hmem : entry ∈ documents.filter (fun entry => admitted entry.2) ↔
      entry ∈ documents.filter fun entry => other entry.2 := by rw [hfilter]
  rw [Bool.eq_iff_iff]
  simpa [he] using hmem

lemma filter_mapIdx_source (admitted : Json → Bool) (documents : List Json) (hit : ℕ → Json → Hit)
    (hsource : ∀ index document, (hit index document).source = document) :
    ((documents.mapIdx hit).filter fun h => admitted h.source).map Hit.source =
      documents.filter admitted := by
  have hsources : (documents.mapIdx hit).map Hit.source = documents := by
    refine List.ext_getElem? fun index => ?_
    simp [hsource, Option.map_map, Function.comp_def]
  conv_rhs => rw [← hsources]
  rw [List.filter_map]
  rfl

lemma sameDocuments_collection (filter : Filter) (documents : Entries Json) :
    (hitsWhere filter.admits documents).SameDocuments
      (Collection.search filter ⟨documents.map Prod.snd⟩) := by
  have hsources : (hitsWhere filter.admits documents).hits.map Hit.source =
      (Collection.search filter ⟨documents.map Prod.snd⟩).hits.map Hit.source := by
    simp only [Collection.search, Collection.hits, Hits.ofList]
    rw [filter_mapIdx_source filter.admits _ _ fun _ _ => rfl, List.filter_map]
    simp [hitsWhere, Hits.ofList, hitOf, Function.comp_def]
  refine ⟨?_, hsources⟩
  simpa [hitsWhere, Hits.ofList, Collection.search] using congrArg List.length hsources

end Documents

variable {path : String} {mint : ℕ → String × String} {start : Files} {session : Session}
  {ledger : Ledger}

lemma Represents.connection_of_handle (h : Represents path mint start session ledger)
    {handle : ℕ} {connection : Connection}
    (hhandle : session.handles[handle]? = some connection) :
    ∃ access, ledger.handles[handle]? = some access ∧
      connection = connectionTo path start access := by
  rw [h.getElem?_handles] at hhandle
  obtain ⟨access, haccess, hconnection⟩ := Option.map_eq_some_iff.mp hhandle
  exact ⟨access, haccess, hconnection.symm⟩

lemma Reachable.search (h : Reachable path mint start session ledger)
    (hready : ledger.ready = true) (access : Access) (filter : Filter)
    (hwhole : filter.path.Whole) (hvisible : ∀ entry ∈ ledger.documents, entry.2.Visible)
    (hstorable : ∀ entry ∈ ledger.documents,
      filter.path.quoting = true ∨ filter.reaches entry.2 = true → entry.2.Storable) :
    ∃ later rows hits, (connectionTo path start access).search filter session.files =
        (later, .ok hits) ∧ Database.Found filter.reaches rows ledger.documents hits ∧
      (Rising mint → Database.InTimeOrder rows) := by
  obtain ⟨database, hserving, hholds, hstamped⟩ := h.database hready
  obtain ⟨later, hask, -⟩ := Connection.ask_serving (connectionTo path start access)
    (fun database => database.search filter) (h.represents.serving hready).1 hserving
  obtain ⟨hits, hhits, hfound⟩ :=
    Database.search_holds hholds filter hwhole hvisible hstorable
  refine ⟨later, database.rows, hits, ?_, hfound, hstamped.inTimeOrder⟩
  rw [Connection.search, hask, hhits]

lemma Database.Found.eq_hitsWhere {admitted : Json → Bool} {rows : List Row}
    {documents : Entries Json} {hits : Hits} (h : Database.Found admitted rows documents hits)
    (horder : Database.InTimeOrder rows) : hits = hitsWhere admitted documents := by
  obtain ⟨entries, rfl, -, hentries⟩ := h
  rw [hentries horder, hitsWhere]

lemma Reachable.step_search (h : Reachable path mint start session ledger)
    (hrising : Rising mint) (hready : ledger.ready = true) (hstorable : ledger.Storable)
    {handle : ℕ} {access : Access} (hhandle : ledger.handles[handle]? = some access)
    (filter : Filter) (hplain : filter.path.Plain) :
    (session.step path mint (.search handle filter)).2 =
      .searched (hitsWhere filter.finds ledger.documents) := by
  obtain ⟨later, rows, hits, hsearch, hfound, horder⟩ := h.search hready access filter
    hplain.whole (fun entry hentry => (hstorable entry hentry).visible)
    (fun entry hentry _ => hstorable entry hentry)
  rw [hfound.eq_hitsWhere (horder hrising), reaches_of_plain hplain] at hsearch
  simp only [Session.step, Session.withHandle, h.represents.getElem?_handles, hhandle,
    Option.map_some, hsearch]
  rfl

/-- The answer to a search is what the engine finds. It is what the filter admits exactly if the two
agree on every live document, which they do where no key holds U+0000, and always for paths that are
followed on the documents. -/
theorem search_answer (h : Reachable path mint start session ledger)
    (hrising : Rising mint) (hstorable : ledger.Storable) (handle : ℕ) (access : Access)
    (hhandle : ledger.handles[handle]? = some access)
    (haccess : access = .writing ∨ ledger.ready = true) (filter : Filter)
    (hplain : filter.path.Plain) :
    let answer := (session.step path mint (.search handle filter)).2
    let right := hitsWhere filter.admits ledger.documents
    answer = .searched (hitsWhere filter.finds ledger.documents) ∧
      (answer = .searched right ↔
        ∀ entry ∈ ledger.documents, filter.finds entry.2 = filter.admits entry.2) ∧
      (filter.path.quoting = true ∨ (∀ entry ∈ ledger.documents, KeysClear entry.2) →
        answer = .searched right) ∧
      (right.hits.map Hit.id).Nodup ∧
      right.SameDocuments (Collection.search filter ⟨ledger.documents.map Prod.snd⟩) := by
  have hrepresents := h.represents
  have hready : ledger.ready = true := by
    rcases haccess with rfl | hready
    · exact hrepresents.ready_of_writing handle hhandle
    · exact hready
  have hanswer := h.step_search hrising hready hstorable hhandle filter hplain
  simp only [hanswer, Answer.searched.injEq, hitsWhere_eq_iff, true_and]
  refine ⟨?_, ?_, sameDocuments_collection filter ledger.documents⟩
  · rintro (hquote | hclear) entry he
    · rw [finds_of_quoting hquote]
    · exact finds_eq_admits filter entry.2 (hclear entry he)
  · have hids : (hitsWhere filter.admits ledger.documents).hits.map Hit.id =
        Entries.keys (ledger.documents.filter fun entry => filter.admits entry.2) := by
      simp [hitsWhere, Hits.ofList, hitOf, Entries.keys, Function.comp_def]
    rw [hids]
    exact hrepresents.distinct.sublist (List.filter_sublist.map _)

section Samples

def nestedDocument : Json :=
  .object [("name", .string "daily"),
    ("type", .object [("a.b", .object [("dcp_type", .string "news")])])]

lemma storable_nested : nestedDocument.Storable :=
  Json.storable_of_readable _ (by decide) (by simp [nestedDocument, Json.maxDepth, Json.Readable,
    Json.MembersReadable])

def searchedRun : Session × Ledger :=
  sampleRun [.openWith .writing, .insert 0 sampleDocument, .insert 0 nestedDocument,
    .insert 0 sampleDocument, .erase 0 "i"]

lemma documents_searchedRun :
    searchedRun.2.documents = [("ii", nestedDocument), ("iii", sampleDocument)] := by
  rfl

theorem search_answer_sample :
    (searchedRun.1.step samplePath sampleMint
      (.search 0 (.present ["type", "a.b", "dcp_type"]))).2 =
        .searched ⟨1, [⟨"ii", nestedDocument⟩]⟩ := by
  have hstorable : searchedRun.2.Storable := by
    simp [Ledger.Storable, documents_searchedRun, storable_nested, storable_sample]
  have hanswer := search_answer (reachable_sample _) rising_sample hstorable 0 .writing
    rfl (Or.inl rfl) (.present ["type", "a.b", "dcp_type"])
    (by simp [Filter.path, Path.Plain])
  exact hanswer.1.trans rfl

def longKeyDocument : Json :=
  .object [("a\x00b", .string "x"), ("name", .string "press")]

lemma storable_longKey : longKeyDocument.Storable :=
  Json.storable_of_readable _ (by decide) (by simp [longKeyDocument, Json.maxDepth, Json.Readable,
    Json.MembersReadable])

theorem search_beginning_of_key :
    let filter : Filter := .present ["a"]
    let state := sampleRun [.openWith .writing, .insert 0 longKeyDocument]
    Reachable samplePath sampleMint {} state.1 state.2 ∧ longKeyDocument.Storable ∧
      filter.path.Plain ∧ state.2.documents = [("i", longKeyDocument)] ∧
      filter.admits longKeyDocument = false ∧
      (Collection.search filter ⟨[longKeyDocument]⟩).total = 0 ∧
      (state.1.step samplePath sampleMint (.search 0 filter)).2 =
        .searched ⟨1, [⟨"i", longKeyDocument⟩]⟩ :=
  ⟨reachable_sample _, storable_longKey, by simp [Filter.path, Path.Plain], by decide +kernel⟩

end Samples

end ContentHub.Store
