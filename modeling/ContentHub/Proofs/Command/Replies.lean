import ContentHub.Proofs.Command.Run
import ContentHub.Proofs.Lookup.Access
import ContentHub.Proofs.Store.Keeping
import Mathlib.Tactic

namespace ContentHub.Command

open Store

structure Reply where
  result : Except Failure Unit
  lines : List String := []

def printed : List String → String
  | [] => ""
  | line :: rest => line ++ "\n" ++ printed rest

def Gives (act : Run Unit) (reply : Reply) : Prop :=
  ∀ world, act.run world =
    (reply.result, { world with output := world.output ++ printed reply.lines })

variable {α : Type} {world : World} {place : Place}

lemma printed_append (lines others : List String) :
    printed (lines ++ others) = printed lines ++ printed others := by
  induction lines with
  | nil => simp [printed]
  | cons line rest ih => simp [printed, ih, String.append_assoc]

lemma gives_printLine (line : String) : Gives (Run.printLine line) ⟨.ok (), [line]⟩ := by
  intro world
  have hline : world.output ++ printed [line] = world.output ++ line ++ "\n" := by
    simp [printed, String.append_assoc]
  rw [hline]
  rfl

lemma gives_throw (failure : Failure) : Gives (throw failure) ⟨.error failure, []⟩ := by
  intro world
  have hnothing : world.output ++ printed [] = world.output := by simp [printed]
  rw [hnothing]
  rfl

lemma gives_throw_bind (failure : Failure) (next : α → Run Unit) :
    Gives (throw failure >>= next) ⟨.error failure, []⟩ :=
  gives_throw failure

lemma gives_pure : Gives (pure ()) ⟨.ok (), []⟩ := by
  intro world
  have hnothing : world.output ++ printed [] = world.output := by simp [printed]
  rw [hnothing]
  rfl

lemma Gives.line {next : Unit → Run Unit} {result : Except Failure Unit} {lines : List String}
    (line : String) (h : Gives (next ()) ⟨result, lines⟩) :
    Gives (Run.printLine line >>= next) ⟨result, line :: lines⟩ := by
  intro world
  rw [run_bind_ok (gives_printLine line world), h]
  simp only [printed, String.append_assoc, String.append_empty]

lemma gives_each (line : α → String) (items : List α) :
    Gives (do for item in items do Run.printLine (line item)) ⟨.ok (), items.map line⟩ := by
  induction items with
  | nil => exact gives_pure
  | cons item rest ih =>
    have hstep : Gives (do
        Run.printLine (line item)
        for item in rest do Run.printLine (line item)) ⟨.ok (), line item :: rest.map line⟩ :=
      Gives.line (line item) ih
    simpa [List.forIn_cons] using hstep

def databaseBackend (database : Database) : Backend Id where
  search filter := database.search filter
  check := Password.check

def Reply.of (reply : α → Reply) : Except Error α → Reply
  | .error e => ⟨.error (.hub e), []⟩
  | .ok x => reply x

def listReply (rows : List Summary) : Reply where
  result := .ok ()
  lines :=
    if rows.isEmpty then ["No provider documents stored."]
    else rows.map fun row => row.id ++ "  " ++ padded 24 row.name ++ " " ++ row.stamp

def showReply (name : String) : Option Provider → Reply
  | some provider => ⟨.ok (), [provider.toDocument.pretty]⟩
  | none => ⟨.error (.noProvider name), []⟩

def authenticateReply (name : String) : Bool → Reply
  | true => ⟨.ok (), ["Provider '" ++ name ++ "' authenticated."]⟩
  | false => ⟨.error (.notAuthenticated name), []⟩

def typeLines (type : ContentType) (tag : String) : List String :=
  ("  Type:          " ++ type.id) ::
  ("  dcp_type:      " ++ tag) ::
  ("  Index name:    " ++ (type.index.map SearchIndex.name).getD "-") ::
  ("  Index type:    " ++ (type.index.map SearchIndex.kind).getD "-") ::
  ("  Preprocessors: " ++ toString type.stages.length) ::
  type.stages.map fun spec =>
    "    - " ++ spec.name?.getD "unnamed" ++ " (" ++ spec.class?.getD "no class" ++ ")"

def typeReply (id : String) : Option ContentType → Reply
  | some type =>
    match type.checkedTag with
    | .ok tag => ⟨.ok (), typeLines type tag⟩
    | .error e => ⟨.error (.hub e), ["  Type:          " ++ type.id]⟩
  | none => ⟨.error (.noType id), []⟩

def replyTo : Task → Option (Database → Reply)
  | .listDocuments => some fun database => listReply database.list
  | .showProvider name => some fun database =>
    .of (showReply name) ((databaseBackend database).findProvider name)
  | .authenticate name password => some fun database =>
    .of (authenticateReply name)
      ((databaseBackend database).authenticate (some name) (some password))
  | .showType id => some fun database =>
    .of (typeReply id) ((databaseBackend database).findType id)
  | _ => none

lemma gives_listReply (rows : List Summary) :
    Gives (if rows.isEmpty then Run.printLine "No provider documents stored."
      else do
        for row in rows do
          Run.printLine (row.id ++ "  " ++ padded 24 row.name ++ " " ++ row.stamp))
      (listReply rows) := by
  unfold listReply
  split
  · exact gives_printLine _
  · exact gives_each _ rows

lemma gives_showReply (name : String) (found : Option Provider) :
    Gives (do
      let provider ← Run.require (.noProvider name) found
      Run.printLine provider.toDocument.pretty) (showReply name found) := by
  cases found with
  | none => exact gives_throw _
  | some provider => exact gives_printLine _

lemma gives_authenticateReply (name : String) (granted : Bool) :
    Gives (if granted then Run.printLine ("Provider '" ++ name ++ "' authenticated.")
      else throw (.notAuthenticated name)) (authenticateReply name granted) := by
  cases granted with
  | false => exact gives_throw _
  | true => exact gives_printLine _

lemma gives_typeReply (id : String) (found : Option ContentType) :
    Gives (do
      let type ← Run.require (.noType id) found
      Run.printLine ("  Type:          " ++ type.id)
      Run.printLine ("  dcp_type:      " ++ (← Run.check type.checkedTag))
      Run.printLine ("  Index name:    " ++ (type.index.map SearchIndex.name).getD "-")
      Run.printLine ("  Index type:    " ++ (type.index.map SearchIndex.kind).getD "-")
      Run.printLine ("  Preprocessors: " ++ toString type.stages.length)
      for spec in type.stages do
        Run.printLine
          ("    - " ++ spec.name?.getD "unnamed" ++ " (" ++ spec.class?.getD "no class" ++ ")"))
      (typeReply id found) := by
  cases found with
  | none => exact gives_throw _
  | some type =>
    simp only [typeReply, Run.require, pure_bind]
    cases type.checkedTag with
    | error e =>
      apply Gives.line
      exact gives_throw_bind _ _
    | ok tag =>
      simp only [Run.check, pure_bind]
      apply Gives.line
      apply Gives.line
      apply Gives.line
      apply Gives.line
      apply Gives.line
      exact gives_each _ type.stages

def Reaches (connection : Connection) (files : Files) : Prop :=
  connection.frozen = false ∧ ∃ database, Serving connection.place database files

/-- A task that asks the database one question. It takes away at most what is left beside the
database, and fails without a word if the question does not get through. -/
def Asks (act : Connection → Run Unit) (reply : Database → Reply) : Prop :=
  ∀ connection world, ∃ files, Tidied connection.place world.files files ∧
    (¬Reaches connection world.files ∧ (∃ fault, (act connection).run world =
        (.error (.hub (.storage (.engine fault))), { world with files })) ∨
      ∃ database, world.files.node? connection.place = some (.database database) ∧
        (act connection).run world = ((reply database).result,
          { world with files, output := world.output ++ printed (reply database).lines }))

lemma run_of_ask {connection : Connection} {question : Database → Except Error α}
    {answer : α → Run Unit} {reply : α → Reply} (h : ∀ x, Gives (answer x) (reply x))
    {files : Files} {database : Database}
    (hask : connection.ask question world.files = (files, question database)) :
    (Run.withFiles (connection.ask question) >>= answer).run world =
      ((Reply.of reply (question database)).result, { world with
        files, output := world.output ++ printed (Reply.of reply (question database)).lines }) := by
  cases hanswer : question database with
  | error e =>
    rw [hanswer] at hask
    simp only [run_bind_error (run_withFiles hask), Reply.of, printed, String.append_empty]
  | ok x =>
    rw [hanswer] at hask
    have hrun := h x { world with files }
    simp only [run_bind_ok (run_withFiles hask), Reply.of, hrun]

lemma asks_of_gives {question : Database → Except Error α} {answer : α → Run Unit}
    {reply : α → Reply} (h : ∀ x, Gives (answer x) (reply x)) :
    Asks (fun connection => Run.withFiles (connection.ask question) >>= answer)
      fun database => .of reply (question database) := by
  intro connection world
  -- the question itself may fail like the way to the database, so its answer cannot tell the cases
  by_cases hreaches : Reaches connection world.files
  · obtain ⟨hfrozen, database, hserving⟩ := hreaches
    obtain ⟨files, hask, htidied⟩ := Connection.ask_serving connection question hfrozen hserving
    exact ⟨files, htidied, Or.inr ⟨database, hserving.kept, run_of_ask h hask⟩⟩
  · obtain ⟨files, htidied, ⟨fault, hask⟩ | ⟨database, hask, hdatabase⟩⟩ :=
      Connection.ask_cases connection question world.files
    · exact ⟨files, htidied, Or.inl ⟨hreaches, fault, run_bind_error (run_withFiles hask)⟩⟩
    · exact ⟨files, htidied, Or.inr ⟨database, hdatabase, run_of_ask h hask⟩⟩

lemma lookUp_eq {act : StateM Files (Except Error α)} {connection : Connection}
    {question : Database → Except Error α}
    (h : ∀ files, (act.run files).swap = connection.ask question files) :
    lookUp act = Run.withFiles (connection.ask question) := by
  rw [lookUp, funext h]

lemma ask_comp {β : Type} (connection : Connection) (question : Database → Except Error α)
    (next : Except Error α → Except Error β) (hnext : ∀ e, next (.error e) = .error e)
    (files : Files) : connection.ask (fun database => next (question database)) files =
      ((connection.ask question files).1, next (connection.ask question files).2) := by
  simp only [Connection.ask]
  cases connection.database files with
  | mk later result =>
    cases result with
    | error e => simp only [hnext]
    | ok _ => rfl

lemma run_findProvider (connection : Connection) (name : String) (files : Files) :
    (((backend connection).findProvider name).run files).swap =
      connection.ask (fun database => (databaseBackend database).findProvider name) files :=
  (ask_comp connection (Database.search (Lookup.nameFilter name))
    (fun hits => hits.bind (Lookup.providerOf name)) (fun _ => rfl) files).symm

lemma run_findType (connection : Connection) (id : String) (files : Files) :
    (((backend connection).findType id).run files).swap =
      connection.ask (fun database => (databaseBackend database).findType id) files :=
  (ask_comp connection (Database.search (Lookup.typeFilter id))
    (fun hits => hits.bind (Lookup.typeOf id)) (fun _ => rfl) files).symm

lemma authenticate_eq {m : Type → Type} [Monad m] [LawfulMonad m] (backend : Backend m)
    (check : PasswordCheck) (hcheck : ∀ name password stored,
      backend.check name password stored = pure (check name password stored))
    (name password : String) : backend.authenticate (some name) (some password) =
      Except.map (grants check name password) <$> backend.findProvider name := by
  simp only [Backend.authenticate, map_eq_pure_bind]
  congr 1
  funext found
  rcases found with e | _ | ⟨_, _ | _, _, _⟩ <;> simp [hcheck, grants, Except.map]

lemma run_authenticate_of_found {connection : Connection} {one : Backend (StateM Files)}
    {other : Database → Backend Id} (check : PasswordCheck)
    (hone : ∀ name password stored,
      one.check name password stored = pure (check name password stored))
    (hother : ∀ database name password stored,
      (other database).check name password stored = check name password stored)
    {name : String} (hfound : ∀ files, ((one.findProvider name).run files).swap =
      connection.ask (fun database => (other database).findProvider name) files)
    (password : String) (files : Files) :
    ((one.authenticate (some name) (some password)).run files).swap =
      connection.ask (fun database => (other database).authenticate (some name) (some password))
        files := by
  have hquestion : ∀ database, (other database).authenticate (some name) (some password) =
      Except.map (grants check name password) ((other database).findProvider name) :=
    fun database => authenticate_eq (other database) check (hother database) name password
  simp only [hquestion, ask_comp connection _ (Except.map (grants check name password))
    fun _ => rfl, ← hfound files, authenticate_eq one check hone]
  rfl

lemma run_authenticate (connection : Connection) (name password : String) (files : Files) :
    (((backend connection).authenticate (some name) (some password)).run files).swap =
      connection.ask (fun database =>
        (databaseBackend database).authenticate (some name) (some password)) files := by
  have hone : ∀ name password stored, (backend connection).check name password stored =
      pure (Password.check name password stored) := fun _ _ _ => rfl
  have hother : ∀ database name password stored, (databaseBackend database).check name password
      stored = Password.check name password stored := fun _ _ _ _ => rfl
  have hfound := run_findProvider connection name
  exact run_authenticate_of_found Password.check hone hother hfound password files

lemma asks_listDocuments : Asks listDocuments fun database => listReply database.list :=
  asks_of_gives gives_listReply

lemma asks_showProvider (name : String) : Asks (fun connection => showProvider connection name)
    fun database => .of (showReply name) ((databaseBackend database).findProvider name) := by
  simp only [showProvider, lookUp_eq (run_findProvider _ name)]
  exact asks_of_gives (gives_showReply name)

lemma asks_authenticate (name password : String) :
    Asks (fun connection => authenticate connection name password) fun database =>
      .of (authenticateReply name)
        ((databaseBackend database).authenticate (some name) (some password)) := by
  simp only [authenticate, lookUp_eq (run_authenticate _ name password)]
  exact asks_of_gives (gives_authenticateReply name)

lemma asks_showType (id : String) : Asks (fun connection => showType connection id)
    fun database => .of (typeReply id) ((databaseBackend database).findType id) := by
  simp only [showType, lookUp_eq (run_findType _ id)]
  exact asks_of_gives (gives_typeReply id)

end ContentHub.Command
