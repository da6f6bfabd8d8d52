import ContentHub.Proofs.Command.Documents
import ContentHub.Proofs.Store.Rows
import ContentHub.Proofs.Store.Sparing
import ContentHub.Proofs.Store.Writing
import Mathlib.Tactic

/-!
What an import leaves behind. It stores the documents of its file in their order, names each of
them, and stops at the first from which no provider can be read; what was there before stays in
front of them.
-/

namespace ContentHub.Command

open Store
open Connection (Accepts Writable)

def Accepted (document : Json) : Prop :=
  ∃ provider, Provider.ofDocument document = .ok provider

inductive Lists : Json → List Json → Prop
  | array (documents : List Json) : Lists (.array documents) documents
  | object (members : List (String × Json)) : Lists (.object members) [.object members]

def Listed (files : Files) (file : String) (documents : List Json) : Prop :=
  ∃ text value, files.readText file = .ok text ∧ Json.parse? text = some value ∧
    Lists value documents

inductive NotListed (files : Files) (file : String) : Failure → Prop
  | unreadable (fault : FileFault) (hread : files.readText file = .error fault) :
      NotListed files file (.cannotRead file)
  | malformed (text : String) (hread : files.readText file = .ok text)
      (hparse : Json.parse? text = none) : NotListed files file (.notJson file)
  | scalar (text : String) (value : Json) (hread : files.readText file = .ok text)
      (hparse : Json.parse? text = some value) (hlists : ¬∃ documents, Lists value documents) :
      NotListed files file .notDocuments

structure LongestAccepted (documents kept : List Json) : Prop where
  front : kept <+: documents
  accepted : ∀ document ∈ kept, Accepted document
  longest : ∀ other, other <+: documents → (∀ document ∈ other, Accepted document) →
    other.length ≤ kept.length

structure Unused (environment : Environment) (minted : ℕ) (rows : List Row) : Prop where
  unused : ∀ n ≥ minted, ∀ row ∈ rows, row.id ≠ (environment.fresh n).1
  apart : ∀ m ≥ minted, ∀ n ≥ minted, (environment.fresh m).1 = (environment.fresh n).1 → m = n

structure ImportKeeps (environment : Environment) (minted : ℕ) (files : Files) (file : String)
    (place : Place) (rows : List Row) (kept : List Json) (result : Outcome × World) : Prop where
  longest : ∀ documents, Listed files file documents → LongestAccepted documents kept
  stored : rowsAt place result.2.files =
    rows ++ (deposited environment minted kept).map Deposit.row
  printed : result.2.output = printed ((deposited environment minted kept).map Deposit.line)
  named : ∀ document ∈ kept, ∃ provider,
    Provider.ofDocument document = .ok provider ∧ nameOf document = provider.name
  fresh : Unused environment minted rows →
    ((deposited environment minted kept).map Deposit.id).Nodup ∧
      ∀ deposit ∈ deposited environment minted kept, ∀ row ∈ rows, row.id ≠ deposit.id
  readsBack : ∀ deposit ∈ deposited environment minted kept, deposit.document.Storable →
    deposit.row.document = .ok deposit.document
  success : result.1 = .success ↔
    ∃ documents, Listed files file documents ∧ ∀ document ∈ documents, Accepted document
  refused : ∀ documents, Listed files file documents → documents ≠ kept →
    ∃ document rest e, documents = kept ++ document :: rest ∧
      Provider.ofDocument document = .error e ∧ result.1 = .failure (.hub e)
  notListed : ∀ failure, NotListed files file failure →
    kept = [] ∧ result.1 = .failure failure

variable {environment : Environment} {arguments : List String} {world : World} {path : String}
  {request : Request} {config : Config} {file : String} {files opened : Files}
  {connection : Connection} {database : Database} {documents kept rest : List Json}
  {document : Json} {failure : Failure} {minted : ℕ}

lemma lists_iff (file text : String) : documentsOf file text = .ok documents ↔
    ∃ value, Json.parse? text = some value ∧ Lists value documents := by
  rw [documentsOf, documentsBy]
  constructor
  · intro h
    split at h
    · cases h
    · next items hparse =>
      obtain rfl := Except.ok.inj h
      exact ⟨_, hparse, .array items⟩
    · next members hparse =>
      obtain rfl := Except.ok.inj h
      exact ⟨_, hparse, .object members⟩
    · cases h
  · rintro ⟨value, hparse, hlists⟩
    rw [hparse]
    cases hlists with
    | array => rfl
    | object => rfl

lemma listed_iff : Listed files file documents ↔ contents files file = .ok documents := by
  rw [contents]
  cases hread : files.readText file with
  | error fault => simp [Listed, hread]
  | ok text => simp [Listed, hread, lists_iff]

lemma notListed_iff : NotListed files file failure ↔ contents files file = .error failure := by
  rw [contents]
  constructor
  · rintro (⟨fault, hread⟩ | ⟨text, hread, hparse⟩ | ⟨text, value, hread, hparse, hlists⟩)
    · rw [hread]
    · simp only [hread, documentsOf, documentsBy, hparse]
    · simp only [hread, documentsOf, documentsBy, hparse]
      cases value with
      | array documents => exact absurd ⟨_, .array documents⟩ hlists
      | object members => exact absurd ⟨_, .object members⟩ hlists
      | _ => rfl
  · intro h
    cases hread : files.readText file with
    | error fault =>
      rw [hread] at h
      obtain rfl := Except.error.inj h
      exact .unreadable fault hread
    | ok text =>
      simp only [hread, documentsOf, documentsBy] at h
      split at h
      · next hparse =>
        obtain rfl := Except.error.inj h
        exact .malformed text hread hparse
      · cases h
      · cases h
      · next value harray hobject hparse =>
        obtain rfl := Except.error.inj h
        refine .scalar text value hread hparse ?_
        rintro ⟨documents, hlists⟩
        cases hlists with
        | array => exact harray documents rfl
        | object members => exact hobject members rfl

lemma not_accepted {e : Error} (h : Provider.ofDocument document = .error e) :
    ¬Accepted document := by
  rintro ⟨provider, hprovider⟩
  rw [h] at hprovider
  cases hprovider

lemma longestAccepted_all (h : ∀ document ∈ kept, Accepted document) :
    LongestAccepted kept kept :=
  ⟨List.prefix_refl kept, h, fun _ hother _ => hother.length_le⟩

lemma longestAccepted_refused (h : ∀ document ∈ kept, Accepted document)
    (hrefused : ¬Accepted document) : LongestAccepted (kept ++ document :: rest) kept := by
  refine ⟨List.prefix_append _ _, h, fun other hother haccepted => ?_⟩
  by_contra hlonger
  -- a longer front would have the refused document in it
  have hfront : kept ++ [document] <+: other := by
    apply List.prefix_of_prefix_length_le _ hother
    · simp only [List.length_append, List.length_singleton]
      omega
    · exact ⟨rest, by simp⟩
  have hmem : document ∈ other := hfront.subset (by simp)
  exact hrefused (haccepted document hmem)

lemma accepted_or_refused (documents : List Json) :
    (∀ document ∈ documents, Accepted document) ∨
      ∃ kept document rest e, documents = kept ++ document :: rest ∧
        (∀ document ∈ kept, Accepted document) ∧ Provider.ofDocument document = .error e := by
  induction documents with
  | nil => simp
  | cons first others ih =>
    cases hfirst : Provider.ofDocument first with
    | error e => exact Or.inr ⟨[], first, others, e, rfl, by simp, hfirst⟩
    | ok provider =>
      have haccepted : Accepted first := ⟨provider, hfirst⟩
      rcases ih with hall | ⟨kept, document, rest, e, rfl, hkept, hrefused⟩
      · exact Or.inl (List.forall_mem_cons.mpr ⟨haccepted, hall⟩)
      · exact Or.inr ⟨first :: kept, document, rest, e, rfl,
          List.forall_mem_cons.mpr ⟨haccepted, hkept⟩, hrefused⟩

def worldAfter (environment : Environment) (kept : List Json) (files : Files) (world : World) :
    World where
  files := files
  minted := world.minted + kept.length
  output := world.output ++ printed ((deposited environment world.minted kept).map Deposit.line)

def databaseAfter (environment : Environment) (kept : List Json) (minted : ℕ)
    (database : Database) : Database :=
  ⟨database.rows ++ (deposited environment minted kept).map Deposit.row⟩

lemma worldAfter_cons (environment : Environment) (document : Json) (rest : List Json)
    (made files : Files) (world : World) :
    worldAfter environment rest files (worldAfter environment [document] made world) =
      worldAfter environment (document :: rest) files world := by
  have hminted : world.minted + 1 + rest.length = world.minted + (rest.length + 1) := by omega
  simp [worldAfter, deposited, printed, String.append_assoc, hminted]

lemma databaseAfter_cons (environment : Environment) (document : Json) (rest : List Json)
    (minted : ℕ) (database : Database) :
    databaseAfter environment rest (minted + 1)
        (databaseAfter environment [document] minted database) =
      databaseAfter environment (document :: rest) minted database := by
  simp [databaseAfter, deposited]

lemma run_storeAll_one (environment : Environment)
    (h : Accepts connection database world.files)
    (haccepted : Accepted document) (rest : List Json) :
    ∃ files, Accepts connection (databaseAfter environment [document] world.minted database) files ∧
      (storeAll environment connection (document :: rest)).run world =
        (storeAll environment connection rest).run
          (worldAfter environment [document] files world) := by
  obtain ⟨provider, hprovider⟩ := haccepted
  obtain ⟨files, hinsert, hfiles⟩ := h.insert_ok (environment.fresh world.minted).1
    (environment.fresh world.minted).2 hprovider
  refine ⟨files, ?_, run_storeAll_ok rest hinsert⟩
  rwa [← nameOf_eq hprovider] at hfiles

lemma run_storeAll_kept (environment : Environment)
    (h : Accepts connection database world.files)
    (hkept : ∀ document ∈ kept, Accepted document) (rest : List Json) :
    ∃ files, Accepts connection (databaseAfter environment kept world.minted database) files ∧
      (storeAll environment connection (kept ++ rest)).run world =
        (storeAll environment connection rest).run (worldAfter environment kept files world) := by
  induction kept generalizing world database with
  | nil =>
    refine ⟨world.files, ?_, ?_⟩
    · simpa [databaseAfter, deposited] using h
    · simp [worldAfter, deposited, printed]
  | cons document others ih =>
    obtain ⟨hdocument, hothers⟩ := List.forall_mem_cons.mp hkept
    obtain ⟨made, hmade, hone⟩ := run_storeAll_one environment h hdocument (others ++ rest)
    obtain ⟨files, hfiles, hrun⟩ :=
      @ih (worldAfter environment [document] made world) _ hmade hothers
    rw [worldAfter_cons] at hrun
    refine ⟨files, ?_, hone.trans hrun⟩
    rw [← databaseAfter_cons]
    exact hfiles

lemma run_storeAll (environment : Environment) (h : Accepts connection database world.files)
    (documents : List Json) :
    ∃ kept files, LongestAccepted documents kept ∧
      Accepts connection (databaseAfter environment kept world.minted database) files ∧
      (documents = kept ∧ (storeAll environment connection documents).run world =
          (.ok (), worldAfter environment kept files world) ∨
        ∃ document rest e, documents = kept ++ document :: rest ∧
          Provider.ofDocument document = .error e ∧
          (storeAll environment connection documents).run world =
            (.error (.hub e), worldAfter environment kept files world)) := by
  rcases accepted_or_refused documents with hall | ⟨kept, document, rest, e, rfl, hkept, hrefused⟩
  · obtain ⟨files, hfiles, hrun⟩ := run_storeAll_kept environment h hall []
    rw [List.append_nil] at hrun
    exact ⟨documents, files, longestAccepted_all hall, hfiles, Or.inl ⟨rfl, hrun⟩⟩
  · obtain ⟨made, hmade, hrun⟩ :=
      run_storeAll_kept environment h hkept (document :: rest)
    obtain ⟨files, hinsert, hfiles⟩ := hmade.insert_error
      (environment.fresh (worldAfter environment kept made world).minted).1
      (environment.fresh (worldAfter environment kept made world).minted).2 hrefused
    rw [run_storeAll_error rest hinsert] at hrun
    exact ⟨kept, files, longestAccepted_refused hkept (not_accepted hrefused), hfiles,
      Or.inr ⟨document, rest, e, rfl, hrefused, hrun⟩⟩

lemma documents_deposited (environment : Environment) (minted : ℕ) (documents : List Json) :
    (deposited environment minted documents).map Deposit.document = documents := by
  induction documents generalizing minted with
  | nil => rfl
  | cons document rest ih => simp [deposited, ih]

lemma document_mem {deposit : Deposit} (h : deposit ∈ deposited environment minted documents) :
    deposit.document ∈ documents := by
  rw [← documents_deposited environment minted documents]
  exact List.mem_map_of_mem h

lemma document_row {deposit : Deposit} (haccepted : Accepted deposit.document)
    (hstorable : deposit.document.Storable) : deposit.row.document = .ok deposit.document := by
  obtain ⟨provider, hprovider⟩ := haccepted
  have hholds : deposit.row.Holds (deposit.id, deposit.document) :=
    ⟨rfl, rfl, provider, hprovider, nameOf_eq hprovider⟩
  exact hholds.document hstorable

lemma Unused.fresh {rows : List Row} (h : Unused environment minted rows)
    (documents : List Json) : ((deposited environment minted documents).map Deposit.id).Nodup ∧
      ∀ deposit ∈ deposited environment minted documents, ∀ row ∈ rows, row.id ≠ deposit.id := by
  refine ⟨nodup_ids_deposited h.apart documents, fun deposit hdeposit row hrow => ?_⟩
  obtain ⟨n, hn, hid⟩ := mem_ids_deposited (List.mem_map_of_mem hdeposit)
  rw [hid]
  exact h.unused n hn row hrow

lemma importKeeps_notListed {rows : List Row} {place : Place} {result : Outcome × World}
    (hcontents : contents files file = .error failure) (hrows : rowsAt place result.2.files = rows)
    (houtput : result.2.output = "") (hresult : result.1 = .failure failure) :
    ImportKeeps environment minted files file place rows [] result where
  longest documents hlisted := by
    rw [listed_iff, hcontents] at hlisted
    cases hlisted
  stored := by rw [hrows, deposited, List.map_nil, List.append_nil]
  printed := houtput
  named := by simp
  fresh hunused := hunused.fresh []
  readsBack := by simp [deposited]
  success := by simp [hresult, listed_iff, hcontents]
  refused documents hlisted := by
    rw [listed_iff, hcontents] at hlisted
    cases hlisted
  notListed other hother := by
    rw [notListed_iff, hcontents] at hother
    obtain rfl := Except.error.inj hother
    exact ⟨rfl, hresult⟩

lemma importKeeps_listed {rows : List Row} {place : Place} {result : Outcome × World}
    (hcontents : contents files file = .ok documents)
    (hlongest : LongestAccepted documents kept)
    (hrows : rowsAt place result.2.files =
      rows ++ (deposited environment minted kept).map Deposit.row)
    (houtput : result.2.output = printed ((deposited environment minted kept).map Deposit.line))
    (hresult : documents = kept ∧ result.1 = .success ∨
      ∃ document rest e, documents = kept ++ document :: rest ∧
        Provider.ofDocument document = .error e ∧ result.1 = .failure (.hub e)) :
    ImportKeeps environment minted files file place rows kept result where
  longest others hlisted := by
    rw [listed_iff, hcontents] at hlisted
    obtain rfl := Except.ok.inj hlisted
    exact hlongest
  stored := hrows
  printed := houtput
  named document hdocument := by
    obtain ⟨provider, hprovider⟩ := hlongest.accepted document hdocument
    exact ⟨provider, hprovider, nameOf_eq hprovider⟩
  fresh hunused := hunused.fresh kept
  readsBack deposit hdeposit hstorable :=
    document_row (hlongest.accepted _ (document_mem hdeposit)) hstorable
  success := by
    simp only [listed_iff, hcontents, Except.ok.injEq, exists_eq_left']
    rcases hresult with ⟨rfl, hsuccess⟩ | ⟨document, rest, e, rfl, hrefused, hfailure⟩
    · exact iff_of_true hsuccess hlongest.accepted
    · refine iff_of_false (by simp [hfailure]) fun hall => not_accepted hrefused ?_
      exact hall document (List.mem_append_right kept List.mem_cons_self)
  refused others hlisted hne := by
    rw [listed_iff, hcontents] at hlisted
    obtain rfl := Except.ok.inj hlisted
    rcases hresult with ⟨hall, -⟩ | hrefused
    · exact absurd hall hne
    · exact hrefused
  notListed failure hother := by
    rw [notListed_iff, hcontents] at hother
    cases hother

lemma importKeeps_importFile (environment : Environment) (file : String)
    (h : Accepts connection database world.files) (houtput : world.output = "") :
    ∃ kept, ImportKeeps environment world.minted world.files file connection.place database.rows
      kept (ended ((importFile environment connection file).run world)) := by
  rw [run_importFile]
  cases hcontents : contents world.files file with
  | error failure =>
    have hrows := rowsAt_of_node? h.kept
    exact ⟨[], importKeeps_notListed hcontents hrows houtput rfl⟩
  | ok documents =>
    obtain ⟨kept, files, hlongest, hfiles, hrun⟩ := run_storeAll environment h documents
    have hrows := rowsAt_of_node? hfiles.kept
    have hprinted : (worldAfter environment kept files world).output =
        printed ((deposited environment world.minted kept).map Deposit.line) := by
      rw [worldAfter, houtput, String.empty_append]
    refine ⟨kept, ?_⟩
    rcases hrun with ⟨hall, hrun⟩ | ⟨document, rest, e, hsplit, hrefused, hrun⟩
    · simp only [hrun]
      exact importKeeps_listed hcontents hlongest hrows hprinted (Or.inl ⟨hall, rfl⟩)
    · simp only [hrun]
      exact importKeeps_listed hcontents hlongest hrows hprinted
        (Or.inr ⟨document, rest, e, hsplit, hrefused, rfl⟩)

/-- An import into a store that can be written stores exactly the longest front of its documents
that are all accepted, behind the rows that were there, and prints a line for each of them. It
succeeds exactly if its file lists documents that are all accepted; otherwise it fails with the
error of the first that is not, or says what is wrong with the file. The file is read once the store
is open, and opening leaves it alone unless it is one of the engine's own. -/
theorem import_longest (hissued : Issued environment arguments world.files request config)
    (htask : request.task = .importDocuments file)
    (hmeant : pathMeant environment config request = .ok path)
    (hopen : Connection.openWith (accessOf config) path world.files = (opened, .ok connection))
    (hwritable : Writable connection opened) :
    (∃ kept, ImportKeeps environment world.minted opened file connection.place
      (rowsBehind path world.files) kept (run environment arguments world)) ∧
    ∀ text, OnDisk path →
      world.files.placeOf file ∉ ownPlaces (databasePlace path world.files) →
        world.files.readText file = .ok text → opened.readText file = .ok text := by
  constructor
  · have huses : usesDatabase request.task = true := by rw [htask, usesDatabase]
    obtain ⟨database, haccepts⟩ := Connection.writable_iff.mp hwritable
    have hrows : database.rows = rowsBehind path world.files := by
      rw [← Connection.rowsAt_openWith hopen haccepts, rowsAt_of_node? haccepts.kept]
    rw [run_opened hissued huses hmeant hopen, htask, ← hrows]
    exact @importKeeps_importFile { world with files := opened, output := "" } _ _ _ _ haccepts rfl
  · intro text hpath hplace hread
    have hspares := Connection.openWith_spares hpath (accessOf config) world.files
    rw [hopen] at hspares
    exact hspares.readText hplace hread

section Samples

def oldDeposit : Deposit :=
  ⟨"old", "dawn", .object [("name", .string "a")]⟩

def stockedWorld : World where
  files := { nodes := [
    (["x.db"], .database (shelf [oldDeposit])),
    (["m.json"], .text ("[\x7b\"name\": \"a\"\x7d, \x7b\"name\": \"b\"\x7d, 7, " ++
      "\x7b\"name\": \"c\"\x7d]"))] }
  minted := 1

def mixedImport : List String :=
  ["--db", "/x.db", "provider", "import", "/m.json"]

def stockedConnection : Connection where
  place := ["x.db"]
  access := .writing

theorem import_longest_sample :
    (∃ kept, ImportKeeps (sampleEnvironment "/") 1 (filesOpened "/x.db" {} stockedWorld.files)
      "/m.json" ["x.db"] [oldDeposit.row] kept
      (run (sampleEnvironment "/") mixedImport stockedWorld)) ∧
    (run (sampleEnvironment "/") mixedImport stockedWorld).1 =
      .failure (.hub (.integrity .notAnObject)) ∧
    (run (sampleEnvironment "/") mixedImport stockedWorld).2.output = "d1  a\nd11  b\n" := by
  have hissued : Issued (sampleEnvironment "/") mixedImport stockedWorld.files
      ⟨some "/x.db", .importDocuments "/m.json"⟩ {} :=
    ⟨by decide +kernel, by decide +kernel⟩
  have hopened : (Connection.openWith (accessOf {}) "/x.db" stockedWorld.files).2 =
      .ok stockedConnection := by decide +kernel
  have hwritable : Writable stockedConnection (filesOpened "/x.db" {} stockedWorld.files) :=
    ⟨"", "", .object [("name", .string "")], by decide +kernel⟩
  have hrows : rowsBehind "/x.db" stockedWorld.files = [oldDeposit.row] := by decide +kernel
  have himport := (import_longest hissued rfl rfl (Prod.ext rfl hopened) hwritable).1
  rw [hrows] at himport
  exact ⟨himport, by decide +kernel, by decide +kernel⟩

end Samples

end ContentHub.Command
