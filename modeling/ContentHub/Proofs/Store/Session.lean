import ContentHub.Proofs.Store.Opening
import ContentHub.Proofs.Store.Rows
import Mathlib.Tactic

/-!
Sessions on the database that a path names. Any number of connections may be open at a time; they
are called handles and counted in the order they were opened. A ledger is what the requests and
their answers say about a session: which documents are live, whether the database has been made, and
what each handle may do.
-/

namespace ContentHub.Store

inductive Request
  | openWith (access : Access)
  | insert (handle : ℕ) (document : Json)
  | get (handle : ℕ) (id : String)
  | erase (handle : ℕ) (id : String)
  | list (handle : ℕ)
  | search (handle : ℕ) (filter : Filter)

inductive Answer
  | opened
  | inserted (id : String)
  | found (document : Option Json)
  | erased (present : Bool)
  | listed (rows : List Summary)
  | searched (hits : Hits)
  | refused (error : Error)
  | noHandle
deriving DecidableEq

def Answer.ofResult {α : Type} (answer : α → Answer) : Except Error α → Answer
  | .ok x => answer x
  | .error e => .refused e

structure Session where
  files : Files
  handles : List Connection := []
  minted : ℕ := 0

namespace Session

def withHandle {α : Type} (session : Session) (handle : ℕ)
    (act : Connection → Files → Files × Except Error α) (answer : α → Answer) : Session × Answer :=
  match session.handles[handle]? with
  | none => (session, .noHandle)
  | some connection =>
    match act connection session.files with
    | (files, result) => ({ session with files }, .ofResult answer result)

def step (path : String) (mint : ℕ → String × String) (session : Session) :
    Request → Session × Answer
  | .openWith access =>
    match Connection.openWith access path session.files with
    | (files, .ok connection) =>
      ({ session with files, handles := session.handles ++ [connection] }, .opened)
    | (files, .error e) => ({ session with files }, .refused e)
  | .insert handle document =>
    { session with minted := session.minted + 1 }.withHandle handle
      (fun connection =>
        connection.insert (mint session.minted).1 (mint session.minted).2 document)
      fun () => .inserted (mint session.minted).1
  | .get handle id => session.withHandle handle (fun connection => connection.get? id) .found
  | .erase handle id => session.withHandle handle (fun connection => connection.erase id) .erased
  | .list handle => session.withHandle handle Connection.list .listed
  | .search handle filter =>
    session.withHandle handle (fun connection => connection.search filter) .searched

end Session

structure Ledger where
  documents : Entries Json := []
  ready : Bool := false
  handles : List Access := []

namespace Ledger

def Storable (ledger : Ledger) : Prop :=
  ∀ entry ∈ ledger.documents, entry.2.Storable

def after (ledger : Ledger) : Request → Answer → Ledger
  | .openWith access, .opened =>
    { ledger with
      ready := ledger.ready || access == .writing, handles := ledger.handles ++ [access] }
  | .insert _ document, .inserted id =>
    { ledger with documents := ledger.documents ++ [(id, document)] }
  | .erase _ id, .erased _ => { ledger with documents := Entries.erase id ledger.documents }
  | _, _ => ledger

def Answers (ledger : Ledger) (handle : ℕ) (answer : Answer) (right : Answer → Prop) : Prop :=
  match ledger.handles[handle]? with
  | none => answer = .noHandle
  | some _ =>
    if ledger.ready then right answer else ∃ fault, answer = .refused (.storage (.engine fault))

def Changes (ledger : Ledger) (handle : ℕ) (answer : Answer) (right : Answer → Prop) : Prop :=
  match ledger.handles[handle]? with
  | none => answer = .noHandle
  | some .reading => answer = .refused (.storage .readOnly)
  | some .writing => right answer

/-- What the store may answer. Opening may fail for reasons that lie in the tree of files. -/
def Allows (ledger : Ledger) : Request → Answer → Prop
  | .openWith _, answer => answer = .opened ∨ ∃ e, answer = .refused e
  | .insert handle document, answer =>
    ledger.Changes handle answer fun answer =>
      match Provider.ofDocument document with
      | .ok _ => ∃ id, Entries.get? id ledger.documents = none ∧ answer = .inserted id
      | .error e => answer = .refused e
  | .get handle id, answer =>
    ledger.Answers handle answer fun answer =>
      ledger.Storable → answer = .found (Entries.get? id ledger.documents)
  | .erase handle id, answer =>
    ledger.Changes handle answer fun answer =>
      answer = .erased (Entries.get? id ledger.documents).isSome
  | .list handle, answer =>
    ledger.Answers handle answer fun answer =>
      ∃ database : Database, database.Holds ledger.documents ∧ answer = .listed database.list
  | .search handle filter, answer =>
    ledger.Answers handle answer fun answer =>
      ∃ database : Database, database.Holds ledger.documents ∧
        answer = .ofResult .searched (database.search filter)

lemma Answers.imp {ledger : Ledger} {handle : ℕ} {answer : Answer} {right other : Answer → Prop}
    (h : ledger.Answers handle answer right) (himp : ∀ given, right given → other given) :
    ledger.Answers handle answer other := by
  simp only [Answers] at h ⊢
  cases hhandle : ledger.handles[handle]? with
  | none => simpa [hhandle] using h
  | some access => by_cases hready : ledger.ready <;> simp_all

end Ledger

/-- The path asks for a database in a file, there is none yet, and every new document gets an id of
its own. -/
structure Setting (path : String) (mint : ℕ → String × String) (start : Files) : Prop where
  onDisk : OnDisk path
  vacant : Vacant (databasePlace path start) start
  fresh : ∀ m n, (mint m).1 = (mint n).1 → m = n

/-- The sessions that start with some tree of files and no handle, and the ledgers beside them. -/
inductive Reachable (path : String) (mint : ℕ → String × String) (start : Files) :
    Session → Ledger → Prop
  | start (setting : Setting path mint start) : Reachable path mint start ⟨start, [], 0⟩ {}
  | step {session : Session} {ledger : Ledger} (h : Reachable path mint start session ledger)
      (request : Request) :
      Reachable path mint start (session.step path mint request).1
        (ledger.after request (session.step path mint request).2)

def run (path : String) (mint : ℕ → String × String) : Session × Ledger → List Request →
    Session × Ledger
  | state, [] => state
  | (session, ledger), request :: rest =>
    let (later, answer) := session.step path mint request
    run path mint (later, ledger.after request answer) rest

lemma reachable_run {path : String} {mint : ℕ → String × String} {start : Files}
    {session : Session} {ledger : Ledger} (h : Reachable path mint start session ledger)
    (requests : List Request) :
    Reachable path mint start (run path mint (session, ledger) requests).1
      (run path mint (session, ledger) requests).2 := by
  induction requests generalizing session ledger with
  | nil => exact h
  | cons request rest ih => exact ih (h.step request)

end ContentHub.Store
