import ContentHub.Command.Run
import ContentHub.Proofs.Provider.Document
import ContentHub.Proofs.Store.Faults
import ContentHub.Proofs.Store.Search
import Mathlib.Tactic

/-!
What lookups run on: a collection in memory, or a connection to a database in a tree of files.
`Stocked` says which documents are in a source. A lookup by name then sees the documents of that
name and nothing else.
-/

namespace ContentHub

open Store

abbrev PasswordCheck := (name password stored : String) → Bool

inductive Source
  | memory (collection : Collection)
  | disk (connection : Connection) (files : Files)

namespace Source

def memoryBackend (collection : Collection) (check : PasswordCheck) : Backend Id where
  search filter := .ok (collection.search filter)
  check := check

def diskBackend (connection : Connection) (check : PasswordCheck) : Backend (StateM Files) :=
  { Command.backend connection with
    check := fun name password stored => pure (check name password stored) }

example (connection : Connection) :
    diskBackend connection Password.check = Command.backend connection := rfl

def ask {α : Type} (source : Source) (check : PasswordCheck)
    (question : ∀ {m : Type → Type} [Monad m], Backend m → m (Except Error α)) : Except Error α :=
  match source with
  | .memory collection => question (memoryBackend collection check)
  | .disk connection files => ((question (diskBackend connection check)).run files).1

def search (source : Source) (filter : Filter) : Except Error Hits :=
  match source with
  | .memory collection => .ok (collection.search filter)
  | .disk connection files => (connection.search filter files).2

def reaches (source : Source) (filter : Filter) : Json → Bool :=
  match source with
  | .memory _ => filter.admits
  | .disk _ _ => filter.reaches

def reads : Source → Prop
  | .memory _ => False
  | .disk connection _ => connection.access = .reading

lemma ask_findProvider (source : Source) (check : PasswordCheck) (name : String) :
    source.ask check (fun backend => backend.findProvider name) =
      (source.search (Lookup.nameFilter name)).bind (Lookup.providerOf name) := by
  cases source <;> rfl

lemma ask_findType (source : Source) (check : PasswordCheck) (id : String) :
    source.ask check (fun backend => backend.findType id) =
      (source.search (Lookup.typeFilter id)).bind (Lookup.typeOf id) := by
  cases source <;> rfl

end Source

def named (name : String) (document : Json) : Bool :=
  document.member? "name" == some (.string name)

lemma eq_of_perm {α β : Type} (f : List α → β) (several : β)
    (hseveral : ∀ items : List α, 2 ≤ items.length → f items = several) {one other : List α}
    (h : one.Perm other) : f one = f other := by
  match one with
  | [] => rw [List.nil_perm.mp h]
  | [item] => rw [List.singleton_perm.mp h]
  | first :: second :: rest =>
    have hlength : 2 ≤ other.length := h.length_eq ▸ by simp
    rw [hseveral _ (by simp), hseveral other hlength]

def onesNamed (name : String) (documents : List Json) : List Json :=
  documents.filter (named name)

inductive Held (connection : Connection) (session : Session) (ledger : Ledger) : Prop
  | intro {path : String} {mint : ℕ → String × String} {start : Files}
      (h : Reachable path mint start session ledger) (handle : ℕ)
      (hhandle : session.handles[handle]? = some connection)

inductive Stocked : Source → List Json → Prop
  | memory (collection : Collection) : Stocked (.memory collection) collection.documents
  | disk {connection : Connection} {session : Session} {ledger : Ledger}
      (h : Held connection session ledger) (hready : ledger.ready = true)
      (hstorable : ledger.Storable) :
      Stocked (.disk connection session.files) (ledger.documents.map Prod.snd)

/-- The engine sees all documents, and those of the name are given back. -/
structure Store.Ledger.LegibleFor (name : String) (ledger : Ledger) : Prop where
  visible : ∀ entry ∈ ledger.documents, entry.2.Visible
  readsBack : ∀ entry ∈ ledger.documents, named name entry.2 = true → entry.2.Storable

inductive StockedFor (name : String) : Source → List Json → Prop
  | memory (collection : Collection) : StockedFor name (.memory collection) collection.documents
  | disk {connection : Connection} {session : Session} {ledger : Ledger}
      (h : Held connection session ledger) (hready : ledger.ready = true)
      (hlegible : ledger.LegibleFor name) :
      StockedFor name (.disk connection session.files) (ledger.documents.map Prod.snd)

inductive Unmade : Source → Prop
  | disk {connection : Connection} {session : Session} {ledger : Ledger}
      (h : Held connection session ledger) (hwaiting : ledger.ready = false) :
      Unmade (.disk connection session.files)

inductive Unseen : Source → Prop
  | disk {connection : Connection} {session : Session} {ledger : Ledger}
      (h : Held connection session ledger) (hready : ledger.ready = true)
      (hunseen : ∃ entry ∈ ledger.documents, Json.readOutline? entry.2.chars = none) :
      Unseen (.disk connection session.files)

def Unread (name : String) (entry : String × Json) : Prop :=
  named name entry.2 = true ∧ Json.read? entry.2.chars = none

inductive UnreadFor (name : String) : Source → Entries Json → Prop
  | disk {connection : Connection} {session : Session} {ledger : Ledger}
      (h : Held connection session ledger) (hready : ledger.ready = true)
      (hvisible : ∀ entry ∈ ledger.documents, entry.2.Visible)
      (hunread : ∃ entry ∈ ledger.documents, Unread name entry) :
      UnreadFor name (.disk connection session.files) ledger.documents

lemma admits_nameFilter (name : String) (document : Json) :
    (Lookup.nameFilter name).admits document = named name document := by
  have hresolve : resolve ["name"] document = document.member? "name" := by
    cases hmember : document.member? "name" <;> simp [resolve, hmember]
  simp only [Filter.admits, Lookup.nameFilter, Filter.path, hresolve, named]
  cases document.member? "name" with
  | none => rfl
  | some value =>
    cases value with
    | string s => rw [Bool.eq_iff_iff]; simp [Filter.accepts]
    | null | bool | number | array | object => rw [Bool.eq_iff_iff]; simp [Filter.accepts]

lemma plain_nameFilter (name : String) : (Lookup.nameFilter name).path.Plain := by
  simp [Lookup.nameFilter, Filter.path, Path.Plain]

lemma quoting_nameFilter (name : String) : (Lookup.nameFilter name).path.quoting = false := by
  have hquote : Path.quoting ["name"] = false := by decide
  exact hquote

lemma sorted_of_normal (members : List (String × Json))
    (h : (Json.object members).normal = .object members) : Entries.Sorted members := by
  rw [← Json.object.inj h]
  exact Entries.sorted_ofList _

lemma finds_nameFilter (name : String) (document : Json) (provider : Provider)
    (haccepted : Provider.ofDocument document = .ok provider)
    (hnormal : document.normal = document) :
    (Lookup.nameFilter name).finds document = named name document := by
  have hname := Provider.ofDocument_name document provider haccepted
  cases document with
  | object members =>
    have hfind := find?_cutKey_of_sorted "name" members _ (sorted_of_normal members hnormal)
      (by decide) hname
    have hresolve : resolveCut ["name"] (.object members) = some (.string provider.name) := by
      simp only [resolveCut, hfind, Option.bind_some]
    have hquote : Path.quoting ["name"] = false := by decide
    rw [Bool.eq_iff_iff]
    simp [Filter.finds, Lookup.nameFilter, Filter.path, hquote, hresolve, Filter.accepts, named,
      hname]
  | null | bool | number | string | array => cases hname

section Held

variable {connection : Connection} {session : Session} {ledger : Ledger}

lemma Held.ready (h : Held connection session ledger)
    (haccess : connection.access = .writing ∨ ledger.ready = true) : ledger.ready = true := by
  rcases haccess with hwriting | hready
  · obtain ⟨hreachable, handle, hhandle⟩ := h
    have hrepresents := hreachable.represents
    obtain ⟨access, haccess, rfl⟩ := hrepresents.connection_of_handle hhandle
    obtain rfl : access = .writing := hwriting
    exact hrepresents.ready_of_writing handle haccess
  · exact hready

lemma Held.accepted (h : Held connection session ledger) :
    ∀ entry ∈ ledger.documents, ∃ provider, Provider.ofDocument entry.2 = .ok provider := by
  obtain ⟨hreachable, -, -⟩ := h
  exact hreachable.represents.accepted

lemma Held.database (h : Held connection session ledger) (hready : ledger.ready = true) :
    ∃ database : Database, database.Holds ledger.documents ∧
      ∀ filter, (Source.disk connection session.files).search filter = database.search filter := by
  obtain ⟨hreachable, handle, hhandle⟩ := h
  obtain ⟨access, -, rfl⟩ := hreachable.represents.connection_of_handle hhandle
  obtain ⟨database, hserving, hholds, -⟩ := hreachable.database hready
  refine ⟨database, hholds, fun filter => ?_⟩
  obtain ⟨later, hask, -⟩ := Connection.ask_serving (connectionTo _ _ access)
    (fun database => database.search filter) (hreachable.represents.serving hready).1 hserving
  exact congrArg Prod.snd hask

lemma Held.search (h : Held connection session ledger) (hready : ledger.ready = true)
    (filter : Filter) (hwhole : filter.path.Whole)
    (hvisible : ∀ entry ∈ ledger.documents, entry.2.Visible)
    (hstorable : ∀ entry ∈ ledger.documents,
      filter.path.quoting = true ∨ filter.reaches entry.2 = true → entry.2.Storable) :
    ∃ hits, (Source.disk connection session.files).search filter = .ok (.ofList hits) ∧
      (hits.map Hit.source).Perm ((ledger.documents.map Prod.snd).filter filter.reaches) := by
  obtain ⟨database, hholds, hsearch⟩ := h.database hready
  obtain ⟨hits, hhits, ⟨entries, rfl, hperm, -⟩⟩ :=
    Database.search_holds hholds filter hwhole hvisible hstorable
  refine ⟨entries.map hitOf, (hsearch filter).trans hhits, ?_⟩
  have hsources := hperm.map Prod.snd
  rw [List.filter_map]
  simpa [hitOf, Function.comp_def] using hsources

lemma Held.reaches_nameFilter (h : Held connection session ledger)
    (hnormal : ∀ entry ∈ ledger.documents, entry.2.normal = entry.2) (name : String) :
    ∀ entry ∈ ledger.documents,
      (Lookup.nameFilter name).reaches entry.2 = named name entry.2 := by
  intro entry hentry
  obtain ⟨provider, haccepted⟩ := h.accepted entry hentry
  rw [reaches_of_plain (plain_nameFilter name)]
  exact finds_nameFilter name entry.2 provider haccepted (hnormal entry hentry)

end Held

variable {source : Source} {documents : List Json}

lemma Stocked.stockedFor (h : Stocked source documents) (name : String) :
    StockedFor name source documents := by
  cases h with
  | memory collection => exact .memory collection
  | disk h hready hstorable =>
    exact .disk h hready ⟨fun entry hentry => (hstorable entry hentry).visible,
      fun entry hentry _ => hstorable entry hentry⟩

lemma stocked_of_held {connection : Connection} {session : Session} {ledger : Ledger}
    (h : Held connection session ledger) (hstorable : ledger.Storable)
    (haccess : connection.access = .writing ∨ ledger.ready = true) :
    Stocked (.disk connection session.files) (ledger.documents.map Prod.snd) :=
  .disk h (h.ready haccess) hstorable

lemma search_memory (collection : Collection) (filter : Filter) :
    ∃ hits, (Source.memory collection).search filter = .ok (.ofList hits) ∧
      hits.map Hit.source = collection.documents.filter filter.admits := by
  refine ⟨_, rfl, ?_⟩
  rw [Collection.hits, filter_mapIdx_source _ _ _ fun _ _ => rfl]

lemma search_stocked (h : Stocked source documents) (filter : Filter)
    (hwhole : filter.path.Whole) :
    ∃ hits, source.search filter = .ok (.ofList hits) ∧
      (hits.map Hit.source).Perm (documents.filter (source.reaches filter)) := by
  cases h with
  | memory collection =>
    obtain ⟨hits, hsearch, hsources⟩ := search_memory collection filter
    exact ⟨hits, hsearch, .of_eq hsources⟩
  | disk h hready hstorable =>
    exact h.search hready filter hwhole (fun entry hentry => (hstorable entry hentry).visible)
      fun entry hentry _ => hstorable entry hentry

lemma accepted_of_disk {connection : Connection} {files : Files}
    (h : Stocked (.disk connection files) documents) :
    ∀ document ∈ documents, ∃ provider, Provider.ofDocument document = .ok provider := by
  intro document hdocument
  cases h with
  | disk h hready hstorable =>
    obtain ⟨entry, hentry, rfl⟩ := List.mem_map.mp hdocument
    exact h.accepted entry hentry

lemma search_nameFilter {name : String} (h : StockedFor name source documents) :
    ∃ hits, source.search (Lookup.nameFilter name) = .ok (.ofList hits) ∧
      (hits.map Hit.source).Perm (onesNamed name documents) := by
  cases h with
  | memory collection =>
    obtain ⟨hits, hsearch, hsources⟩ := search_memory collection (Lookup.nameFilter name)
    refine ⟨hits, hsearch, .of_eq (hsources.trans ?_)⟩
    exact List.filter_congr fun document _ => admits_nameFilter name document
  | @disk connection session ledger h hready hlegible =>
    have hreaches := h.reaches_nameFilter
      (fun entry hentry => (hlegible.visible entry hentry).normal) name
    have hquote : (Lookup.nameFilter name).path.quoting = false := quoting_nameFilter name
    have hstorable : ∀ entry ∈ ledger.documents,
        (Lookup.nameFilter name).path.quoting = true ∨
          (Lookup.nameFilter name).reaches entry.2 = true → entry.2.Storable := by
      intro entry hentry hfound
      rw [hquote, hreaches entry hentry] at hfound
      exact hlegible.readsBack entry hentry (hfound.resolve_left Bool.false_ne_true)
    obtain ⟨hits, hsearch, hperm⟩ :=
      h.search hready _ (plain_nameFilter name).whole hlegible.visible hstorable
    have hones : (ledger.documents.map Prod.snd).filter (Lookup.nameFilter name).reaches =
        onesNamed name (ledger.documents.map Prod.snd) := by
      refine List.filter_congr fun document hdocument => ?_
      obtain ⟨entry, hentry, rfl⟩ := List.mem_map.mp hdocument
      exact hreaches entry hentry
    exact ⟨hits, hsearch, hones ▸ hperm⟩

lemma search_unseen (h : Unseen source) (filter : Filter) (hwhole : filter.path.Whole)
    (hquote : filter.path.quoting = false) :
    source.search filter = .error (.storage (.engine .malformedText)) := by
  cases h with
  | disk h hready hunseen =>
    obtain ⟨database, hholds, hsearch⟩ := h.database hready
    have hrows := (Database.exists_chars_iff hholds
      fun chars => Json.readOutline? chars = none).mpr hunseen
    rw [hsearch, Database.search_unseen hwhole hquote hrows]

lemma search_unread {name : String} {stored : Entries Json} (h : UnreadFor name source stored) :
    ∃ entry ∈ stored, Unread name entry ∧
      source.search (Lookup.nameFilter name) = .error (.storage (.unreadable entry.1)) := by
  cases h with
  | disk h hready hvisible hunread =>
    obtain ⟨database, hholds, hsearch⟩ := h.database hready
    have hreaches := h.reaches_nameFilter (fun entry hentry => (hvisible entry hentry).normal) name
    obtain ⟨entry, hentry, hnamed, hread⟩ := hunread
    obtain ⟨found, hfound, hreached, hfoundRead, hfails⟩ := Database.search_found_unread hholds
      (plain_nameFilter name).whole (quoting_nameFilter name) hvisible
      ⟨entry, hentry, (hreaches entry hentry).trans hnamed, hread⟩
    exact ⟨found, hfound, ⟨(hreaches found hfound).symm.trans hreached, hfoundRead⟩,
      (hsearch _).trans hfails⟩

lemma search_unmade (h : Unmade source) (filter : Filter) :
    ∃ fault, source.search filter = .error (.storage (.engine fault)) := by
  cases h with
  | @disk connection session ledger h hwaiting =>
    obtain ⟨hreachable, handle, hhandle⟩ := h
    have hrepresents := hreachable.represents
    obtain ⟨access, -, rfl⟩ := hrepresents.connection_of_handle hhandle
    obtain ⟨later, fault, hask, -⟩ :=
      hrepresents.ask_waiting hwaiting access fun database => database.search filter
    exact ⟨fault, congrArg Prod.snd hask⟩

lemma reads_of_unmade (h : Unmade source) : source.reads := by
  cases h with
  | @disk connection session ledger h hwaiting =>
    obtain ⟨hreachable, handle, hhandle⟩ := h
    have hrepresents := hreachable.represents
    obtain ⟨access, haccess, rfl⟩ := hrepresents.connection_of_handle hhandle
    exact (hrepresents.waiting hwaiting).2.2 access (List.mem_of_getElem? haccess)

end ContentHub
