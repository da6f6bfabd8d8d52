import ContentHub.Proofs.Command.Replies
import ContentHub.Proofs.Store.Writing
import Mathlib.Tactic

namespace ContentHub.Command

open Store
open Connection (Writable)
open Files (KeepsDirectories)

structure Deposit where
  id : String
  stamp : String
  document : Json
deriving DecidableEq

def Deposit.row (deposit : Deposit) : Row :=
  ⟨deposit.id, nameOf deposit.document, deposit.document.print, deposit.stamp⟩

def Deposit.line (deposit : Deposit) : String :=
  deposit.id ++ "  " ++ nameOf deposit.document

def shelf (deposits : List Deposit) : Database :=
  ⟨deposits.map Deposit.row⟩

def deposited (environment : Environment) : (minted : ℕ) → List Json → List Deposit
  | _, [] => []
  | minted, document :: rest =>
    ⟨(environment.fresh minted).1, (environment.fresh minted).2, document⟩ ::
      deposited environment (minted + 1) rest

def withoutId (id : String) (deposits : List Deposit) : List Deposit :=
  deposits.filter fun deposit => deposit.id != id

lemma nameOf_eq {document : Json} {provider : Provider}
    (h : Provider.ofDocument document = .ok provider) : nameOf document = provider.name := by
  simp [nameOf, Provider.ofDocument_name document provider h, Json.text?]

lemma insert_shelf (deposits : List Deposit) (id stamp : String) {document : Json}
    {provider : Provider} (h : Provider.ofDocument document = .ok provider) :
    (shelf deposits).insert id stamp document =
      .ok (shelf (deposits ++ [⟨id, stamp, document⟩])) := by
  simp [Database.insert, h, Except.map, shelf, Deposit.row, nameOf_eq h]

lemma erase_shelf (id : String) (deposits : List Deposit) :
    (shelf deposits).erase id = shelf (withoutId id deposits) := by
  rw [Database.erase, shelf, withoutId, shelf, List.filter_map]
  rfl

lemma row?_shelf (id : String) (deposits : List Deposit) :
    ((shelf deposits).row? id).isSome = true ↔ ∃ deposit ∈ deposits, deposit.id = id := by
  simp [Database.row?, shelf, Deposit.row, List.find?_isSome]

lemma withoutId_of_absent {id : String} {deposits : List Deposit}
    (h : ¬∃ deposit ∈ deposits, deposit.id = id) : withoutId id deposits = deposits := by
  apply List.filter_eq_self.mpr
  intro deposit hdeposit
  simpa using fun hid => h ⟨deposit, hdeposit, hid⟩

/-- The deposits are what the database at a place holds, or there is no database and no deposit. -/
def Keeps (place : Place) (files : Files) (deposits : List Deposit) : Prop :=
  files.node? place = some (.database (shelf deposits)) ∨ Vacant place files ∧ deposits = []

/-- What is stored at a place turns from some deposits into others. A place without a database stays
without one. -/
structure Moves (place : Place) (files later : Files) (deposits moved : List Deposit) : Prop where
  keeps : KeepsDirectories files later
  vacant : Vacant place files → Vacant place later ∧ moved = deposits
  stored : files.node? place = some (.database (shelf deposits)) →
    later.node? place = some (.database (shelf moved))

variable {place : Place} {files later made : Files} {deposits moved : List Deposit}
  {connection : Connection} {world : World} {environment : Environment}

lemma moves_of_undisturbed (h : Undisturbed place files later) :
    Moves place files later deposits deposits where
  keeps := h.keeps
  vacant hvacant := ⟨fun database hdatabase => hvacant database (h.kept ▸ hdatabase), rfl⟩
  stored hstored := h.kept.trans hstored

lemma moves_of_grown (h : Files.Grown files later) :
    Moves place files later deposits deposits where
  keeps := h.keepsDirectories
  vacant hvacant := by
    refine ⟨fun database hdatabase => ?_, rfl⟩
    rcases h.nodes place with hsame | ⟨-, hmade⟩
    · exact hvacant database (hsame ▸ hdatabase)
    · cases hmade.symm.trans hdatabase
  stored hstored := by
    rcases h.nodes place with hsame | ⟨hnone, -⟩
    · exact hsame.trans hstored
    · cases hnone.symm.trans hstored

lemma moves_of_database {database : Database}
    (hdatabase : files.node? place = some (.database database))
    (hkeeps : KeepsDirectories files later)
    (hmoved : later.node? place = some (.database (shelf moved))) :
    Moves place files later deposits moved where
  keeps := hkeeps
  vacant hvacant := absurd hdatabase (hvacant database)
  stored _ := hmoved

lemma Moves.trans {final : List Deposit} (h : Moves place files made deposits moved)
    (hl : Moves place made later moved final) : Moves place files later deposits final where
  keeps := h.keeps.trans hl.keeps
  vacant hvacant :=
    ⟨(hl.vacant (h.vacant hvacant).1).1,
      (hl.vacant (h.vacant hvacant).1).2.trans (h.vacant hvacant).2⟩
  stored hstored := hl.stored (h.stored hstored)

lemma Keeps.moves (h : Keeps place files deposits)
    (hmoves : Moves place files later deposits moved) :
    Keeps place later moved := by
  rcases h with hstored | ⟨hvacant, rfl⟩
  · exact Or.inl (hmoves.stored hstored)
  · exact Or.inr (hmoves.vacant hvacant)

lemma Keeps.eq_shelf (h : Keeps place files deposits) {database : Database}
    (hdatabase : files.node? place = some (.database database)) : database = shelf deposits := by
  rcases h with hstored | ⟨hvacant, -⟩
  · have hsame := hdatabase.symm.trans hstored
    simpa using hsame
  · exact absurd hdatabase (hvacant database)

inductive Deletes (connection : Connection) (id : String) (deposits : List Deposit)
    (world : World) : Except Failure Unit × World → Prop
  | refused (fault : StorageFault) (hshut : ¬Writable connection world.files) (files : Files)
      (hfiles : Undisturbed connection.place world.files files) :
      Deletes connection id deposits world
        (.error (.hub (.storage fault)), { world with files })
  | absent (files : Files) (habsent : ¬∃ deposit ∈ deposits, deposit.id = id)
      (hfiles : Undisturbed connection.place world.files files) :
      Deletes connection id deposits world (.error (.noDocument id), { world with files })
  | removes (files : Files) (haccess : connection.access = .writing)
      (hlive : ∃ deposit ∈ deposits, deposit.id = id)
      (hfiles : Moves connection.place world.files files deposits (withoutId id deposits)) :
      Deletes connection id deposits world
        (.ok (), { world with files, output := world.output ++ printed ["Deleted " ++ id] })

lemma deletes_run (h : Keeps connection.place world.files deposits) (id : String) :
    Deletes connection id deposits world ((deleteDocument connection id).run world) := by
  rcases Connection.change_cases connection
      (fun database => .ok ((database.row? id).isSome, database.erase id)) world.files with
    ⟨files, e, herase, htidied, ⟨fault, rfl⟩ | ⟨_, hedit⟩⟩ |
    ⟨files, database, answer, written, herase, haccess, hdatabase, hedit, hwritten, hkeeps⟩
  · have hrun : (deleteDocument connection id).run world =
        (.error (.hub (.storage fault)), { world with files }) :=
      run_bind_error (run_withFiles herase)
    have hshut : ¬Writable connection world.files := by
      intro hwritable
      obtain ⟨database, haccepts⟩ := Connection.writable_iff.mp hwritable
      obtain ⟨_, herased, -⟩ := haccepts.erase_ok id
      cases herase.symm.trans herased
    rw [hrun]
    exact .refused fault hshut files htidied.undisturbed
  · cases hedit
  · obtain rfl := h.eq_shelf hdatabase
    obtain ⟨rfl, rfl⟩ := Prod.mk.inj (Except.ok.inj hedit)
    rw [erase_shelf] at hwritten
    have hrun : (deleteDocument connection id).run world =
        (if ((shelf deposits).row? id).isSome = true then Run.printLine ("Deleted " ++ id)
          else throw (.noDocument id) : Run Unit).run { world with files } :=
      run_bind_ok (run_withFiles herase)
    rw [hrun]
    by_cases hlive : ∃ deposit ∈ deposits, deposit.id = id
    · rw [if_pos ((row?_shelf id deposits).mpr hlive), gives_printLine]
      exact .removes files haccess hlive (moves_of_database hdatabase hkeeps hwritten)
    · rw [if_neg (mt (row?_shelf id deposits).mp hlive)]
      refine .absent files hlive ⟨hkeeps, ?_⟩
      rw [hwritten, hdatabase, withoutId_of_absent hlive]

inductive Stops (connection : Connection) (files : Files) (documents : List Json) (count : ℕ) :
    Failure → Prop
  | refused (document : Json) (e : Error) (hdocument : documents[count]? = some document)
      (hrefused : Provider.ofDocument document = .error e) :
      Stops connection files documents count (.hub e)
  | shut (fault : StorageFault) (hnone : count = 0) (hshut : ¬Writable connection files) :
      Stops connection files documents count (.hub (.storage fault))

structure Imports (environment : Environment) (connection : Connection) (documents : List Json)
    (deposits : List Deposit) (world : World) (count : ℕ) (result : Except Failure Unit)
    (later : World) : Prop where
  atMost : count ≤ documents.length
  minted : later.minted = world.minted + count
  moves : Moves connection.place world.files later.files deposits
    (deposits ++ deposited environment world.minted (documents.take count))
  output : later.output = world.output ++
    printed ((deposited environment world.minted (documents.take count)).map Deposit.line)
  accepted : ∀ document ∈ documents.take count, ∃ provider,
    Provider.ofDocument document = .ok provider
  all : result = .ok () → count = documents.length
  stopped : ∀ failure, result = .error failure →
    Stops connection world.files documents count failure
  writing : 0 < count → connection.access = .writing

lemma imports_none {documents : List Json} {result : Except Failure Unit}
    (hfiles : Undisturbed connection.place world.files files)
    (hall : result = .ok () → documents = [])
    (hstopped : ∀ failure, result = .error failure →
      Stops connection world.files documents 0 failure) :
    Imports environment connection documents deposits world 0 result { world with files } where
  atMost := Nat.zero_le _
  minted := rfl
  moves := by
    rw [List.take_zero, deposited, List.append_nil]
    exact moves_of_undisturbed hfiles
  output := by simp [deposited, printed]
  accepted := by simp
  all h := by simp [hall h]
  stopped := hstopped
  writing h := absurd h (Nat.lt_irrefl 0)

lemma Stops.cons {document : Json} {rest : List Json} {count : ℕ} {failure : Failure}
    (hwritable : Writable connection later) (h : Stops connection later rest count failure) :
    Stops connection files (document :: rest) (count + 1) failure := by
  cases h with
  | refused other e hother hrefused =>
    exact .refused other e (by rwa [List.getElem?_cons_succ]) hrefused
  -- a database that took one document can be written, so only a document stops what follows
  | shut fault _ hshut => exact absurd hwritable hshut

lemma imports_cons {document : Json} {provider : Provider} {rest : List Json} {count : ℕ}
    {result : Except Failure Unit} {later : World} (haccess : connection.access = .writing)
    (hwritable : Writable connection files)
    (hprovider : Provider.ofDocument document = .ok provider)
    (hmoves : Moves connection.place world.files files deposits
      (deposits ++ deposited environment world.minted [document]))
    (h : Imports environment connection rest
      (deposits ++ deposited environment world.minted [document])
      { files, minted := world.minted + 1, output := world.output ++
        printed ((deposited environment world.minted [document]).map Deposit.line) }
      count result later) :
    Imports environment connection (document :: rest) deposits world (count + 1) result later where
  atMost := Nat.succ_le_succ h.atMost
  minted := h.minted.trans (Nat.add_right_comm world.minted 1 count)
  moves := by
    have hall := hmoves.trans h.moves
    rwa [List.append_assoc] at hall
  output := by
    rw [h.output, String.append_assoc, ← printed_append, ← List.map_append]
    rfl
  accepted := by
    rw [List.take_succ_cons, List.forall_mem_cons]
    exact ⟨⟨provider, hprovider⟩, h.accepted⟩
  all hresult := by rw [h.all hresult, List.length_cons]
  stopped failure hresult := (h.stopped failure hresult).cons hwritable
  writing _ := haccess

lemma insert_cases (h : Keeps connection.place files deposits) (id stamp : String)
    (document : Json) :
    (∃ later e, connection.insert id stamp document files = (later, .error e) ∧
        Undisturbed connection.place files later ∧
        Stops connection files [document] 0 (.hub e)) ∨
      ∃ later provider, connection.insert id stamp document files = (later, .ok ()) ∧
        connection.access = .writing ∧ Provider.ofDocument document = .ok provider ∧
        Moves connection.place files later deposits (deposits ++ [⟨id, stamp, document⟩]) := by
  rcases Connection.change_cases connection (fun database =>
      (database.insert id stamp document).map fun extended => ((), extended)) files with
    ⟨later, e, hinsert, htidied, -⟩ |
    ⟨later, database, answer, written, hinsert, haccess, hdatabase, hedit, hwritten, hkeeps⟩
  · refine Or.inl ⟨later, e, hinsert, htidied.undisturbed, ?_⟩
    rcases Connection.insert_error_cases hinsert with hrefused | ⟨⟨fault, rfl⟩, hshut⟩
    · exact .refused document e rfl hrefused
    · exact .shut fault rfl hshut
  · obtain rfl := h.eq_shelf hdatabase
    cases hprovider : Provider.ofDocument document with
    | error e =>
      rw [Database.insert, hprovider] at hedit
      cases hedit
    | ok provider =>
      rw [insert_shelf deposits id stamp hprovider] at hedit
      obtain ⟨-, rfl⟩ := Prod.mk.inj (Except.ok.inj hedit)
      exact Or.inr ⟨later, provider, hinsert, haccess, rfl,
        moves_of_database hdatabase hkeeps hwritten⟩

lemma run_storeAll_cons (environment : Environment) (connection : Connection) (document : Json)
    (rest : List Json) (world : World) :
    (storeAll environment connection (document :: rest)).run world =
      (Run.withFiles (connection.insert (environment.fresh world.minted).1
          (environment.fresh world.minted).2 document) >>= fun _ => do
        modify fun world => { world with minted := world.minted + 1 }
        Run.printLine ((environment.fresh world.minted).1 ++ "  " ++ nameOf document)
        storeAll environment connection rest).run world := rfl

lemma run_storeAll_error {document : Json} {e : Error} (rest : List Json)
    (h : connection.insert (environment.fresh world.minted).1 (environment.fresh world.minted).2
      document world.files = (files, .error e)) :
    (storeAll environment connection (document :: rest)).run world =
      (.error (.hub e), { world with files }) := by
  rw [run_storeAll_cons]
  exact run_bind_error (run_withFiles h)

lemma run_storeAll_ok {document : Json} (rest : List Json)
    (h : connection.insert (environment.fresh world.minted).1 (environment.fresh world.minted).2
      document world.files = (files, .ok ())) :
    (storeAll environment connection (document :: rest)).run world =
      (storeAll environment connection rest).run
        { files, minted := world.minted + 1, output := world.output ++
          printed ((deposited environment world.minted [document]).map Deposit.line) } := by
  have hline : world.output ++
      printed ((deposited environment world.minted [document]).map Deposit.line) =
        world.output ++ ((environment.fresh world.minted).1 ++ "  " ++ nameOf document) ++
          "\n" := by
    simp [deposited, printed, Deposit.line, String.append_assoc]
  rw [run_storeAll_cons, run_bind_ok (run_withFiles h), hline]
  rfl

lemma Stops.of_head {document : Json} (rest : List Json) {failure : Failure}
    (h : Stops connection files [document] 0 failure) :
    Stops connection files (document :: rest) 0 failure := by
  cases h with
  | refused other e hother hrefused => exact .refused other e hother hrefused
  | shut fault hnone hshut => exact .shut fault hnone hshut

lemma imports_storeAll (environment : Environment) (documents : List Json)
    (h : Keeps connection.place world.files deposits) :
    ∃ count, Imports environment connection documents deposits world count
      ((storeAll environment connection documents).run world).1
      ((storeAll environment connection documents).run world).2 := by
  induction documents generalizing world deposits with
  | nil =>
    have hnothing : (storeAll environment connection []).run world = (.ok (), world) := rfl
    rw [hnothing]
    exact ⟨0, imports_none (Undisturbed.refl _ world.files) (fun _ => rfl) (by simp)⟩
  | cons document rest ih =>
    rcases insert_cases h (environment.fresh world.minted).1 (environment.fresh world.minted).2
      document with ⟨files, e, hinsert, hfiles, hstops⟩ |
      ⟨files, provider, hinsert, haccess, hprovider, hmoves⟩
    · -- the first document that is refused ends the import
      rw [run_storeAll_error rest hinsert]
      refine ⟨0, imports_none hfiles (by simp) fun failure hfailure => ?_⟩
      rw [← Except.error.inj hfailure]
      exact hstops.of_head rest
    · rw [run_storeAll_ok rest hinsert]
      obtain ⟨count, hcount⟩ := @ih _ (World.mk files _ _) (h.moves hmoves)
      exact ⟨count + 1,
        imports_cons haccess (Connection.writable_of_insert hinsert) hprovider hmoves hcount⟩

def documentsIn (files : Files) (file : String) : List Json :=
  match files.readText file with
  | .error _ => []
  | .ok text =>
    match documentsOf file text with
    | .error _ => []
    | .ok documents => documents

def contents (files : Files) (file : String) : Except Failure (List Json) :=
  match files.readText file with
  | .error _ => .error (.cannotRead file)
  | .ok text => documentsOf file text

lemma documentsIn_eq (files : Files) (file : String) : documentsIn files file =
    match contents files file with
    | .error _ => []
    | .ok documents => documents := by
  rw [documentsIn, contents]
  cases files.readText file <;> rfl

lemma run_importFile (environment : Environment) (connection : Connection) (file : String)
    (world : World) : (importFile environment connection file).run world =
      match contents world.files file with
      | .error failure => (.error failure, world)
      | .ok documents => (storeAll environment connection documents).run world := by
  have hrun : (importFile environment connection file).run world =
      (match world.files.readText file with
        | .error _ => throw (.cannotRead file)
        | .ok text =>
          match documentsOf file text with
          | .error failure => throw failure
          | .ok documents => storeAll environment connection documents : Run Unit).run world := rfl
  rw [hrun, contents]
  cases world.files.readText file with
  | error fault => rfl
  | ok text =>
    simp only
    cases documentsOf file text with
    | error failure => rfl
    | ok documents => rfl

end ContentHub.Command
