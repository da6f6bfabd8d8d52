import ContentHub.Proofs.Command.Run
import Mathlib.Tactic

namespace ContentHub.Command

open Store

def accessOf (config : Config) : Access :=
  if config.storage.readOnly then .reading else .writing

def usesDatabase : Task → Bool
  | .importDocuments _ => true
  | .listDocuments => true
  | .showProvider _ => true
  | .deleteDocument _ => true
  | .authenticate _ _ => true
  | .showType _ => true
  | _ => false

def actOf (environment : Environment) : Task → Connection → Run Unit
  | .importDocuments file, connection => importFile environment connection file
  | .listDocuments, connection => listDocuments connection
  | .showProvider name, connection => showProvider connection name
  | .deleteDocument id, connection => deleteDocument connection id
  | .authenticate name password, connection => authenticate connection name password
  | .showType id, connection => showType connection id
  | _, _ => pure ()

def pathMeant (environment : Environment) (config : Config) (request : Request) :
    Except Error String :=
  match request.database.or environment.database with
  | some path => .ok path
  | none => config.databasePath environment.home

inductive OnTheWay : Error → Prop
  | directory (path : String) (fault : FileFault) : OnTheWay (.file path fault)
  | database (fault : StorageFault) : OnTheWay (.storage fault)

structure Issued (environment : Environment) (arguments : List String) (files : Files)
    (request : Request) (config : Config) : Prop where
  parsed : parseArguments arguments = .ok request
  loaded : Config.load environment.home files = .ok config

variable {files : Files} {world : World} {environment : Environment} {arguments : List String}
  {request : Request} {config : Config} {task : Task}

lemma Issued.pathMeant (h : Issued environment arguments files request config) :
    ∃ meant, pathMeant environment config request = .ok meant := by
  have hloaded := h.loaded
  cases hhome : environment.home with
  | none =>
    rw [hhome] at hloaded
    cases hloaded
  | some home =>
    simp only [Command.pathMeant, Config.databasePath, Config.expandHome, Config.homeOf, hhome]
    split
    · exact ⟨_, rfl⟩
    · split
      · exact ⟨_, rfl⟩
      · exact ⟨_, rfl⟩

lemma onTheWay_connect {access : Access} {path : String} {files later : Files} {e : Error}
    (h : Connection.connect access path files = (later, .error e)) : OnTheWay e := by
  simp only [Connection.connect] at h
  split at h
  · obtain rfl := Except.error.inj (Prod.mk.inj h).2
    exact .database _
  · split at h
    · obtain rfl := Except.error.inj (Prod.mk.inj h).2
      exact .database _
    · split at h
      · cases (Prod.mk.inj h).2
      · split at h
        · obtain rfl := Except.error.inj (Prod.mk.inj h).2
          exact .database _
        · cases (Prod.mk.inj h).2

lemma onTheWay_connectPrepared {path : String} {files later : Files} {e : Error}
    (h : Connection.connectPrepared path files = (later, .error e)) : OnTheWay e := by
  simp only [Connection.connectPrepared] at h
  split at h
  · next hconnect =>
    obtain rfl := Except.error.inj (Prod.mk.inj h).2
    exact onTheWay_connect hconnect
  · split at h
    · obtain rfl := Except.error.inj (Prod.mk.inj h).2
      exact .database _
    · cases (Prod.mk.inj h).2

lemma onTheWay_openWith {access : Access} {path : String} {files later : Files} {e : Error}
    (h : Connection.openWith access path files = (later, .error e)) : OnTheWay e := by
  cases access with
  | reading =>
    simp only [Connection.openWith, Connection.openReadable] at h
    split at h
    · exact onTheWay_connect h
    · obtain rfl := Except.error.inj (Prod.mk.inj h).2
      exact .database _
  | writing =>
    simp only [Connection.openWith, Connection.openWritable] at h
    split at h
    · obtain rfl := Except.error.inj (Prod.mk.inj h).2
      exact .directory _ _
    · exact onTheWay_connectPrepared h
    · exact onTheWay_connectPrepared h

def ended : Except Failure Unit × World → Outcome × World
  | (.ok (), world) => (.success, world)
  | (.error failure, world) => (.failure failure, world)

lemma ended_snd (run : Except Failure Unit × World) : (ended run).2 = run.2 := by
  obtain ⟨_ | _, _⟩ := run <;> rfl

lemma run_runRequest (environment : Environment) (request : Request) (world : World) :
    (runRequest environment request).run world =
      match Config.load environment.home world.files with
      | .error e => (.error (.hub e), world)
      | .ok config => (runTask environment config (request.database.or environment.database)
          request.task).run world := by
  have hcheck : (runRequest environment request).run world =
      (Run.check (Config.load environment.home world.files) >>= fun config =>
        runTask environment config (request.database.or environment.database)
          request.task).run world := rfl
  rw [hcheck]
  cases Config.load environment.home world.files <;> rfl

lemma run_issued (h : Issued environment arguments world.files request config) :
    run environment arguments world =
      ended ((runTask environment config (request.database.or environment.database)
        request.task).run { world with output := "" }) := by
  simp only [run, h.parsed, run_runRequest, h.loaded]
  generalize (runTask environment config (request.database.or environment.database)
    request.task).run { world with output := "" } = result
  obtain ⟨_ | _, _⟩ := result <;> rfl

lemma runTask_database (htask : usesDatabase task = true) (database : Option String) :
    runTask environment config database task =
      openDatabase environment config database >>= actOf environment task := by
  cases task <;> first | rfl | cases htask

lemma run_openDatabase (environment : Environment) (config : Config) (request : Request)
    (world : World) :
    (openDatabase environment config (request.database.or environment.database)).run world =
      match pathMeant environment config request with
      | .error e => (.error (.hub e), world)
      | .ok meant => (Run.withFiles (Connection.openWith (accessOf config) meant)).run world := by
  simp only [openDatabase, pathMeant, accessOf]
  cases request.database.or environment.database with
  | some meant => rfl
  | none => cases config.databasePath environment.home <;> rfl

lemma run_unopened (h : Issued environment arguments world.files request config)
    (htask : usesDatabase request.task = true) {files : Files} {meant : String} {e : Error}
    (hmeant : pathMeant environment config request = .ok meant)
    (hopen : Connection.openWith (accessOf config) meant world.files = (files, .error e)) :
    run environment arguments world = (.failure (.hub e), { world with files, output := "" }) := by
  have hdatabase : (openDatabase environment config
      (request.database.or environment.database)).run { world with output := "" } =
        (.error (.hub e), { world with files, output := "" }) := by
    simp only [run_openDatabase, hmeant]
    exact @run_withFiles _ { world with output := "" } _ _ _ hopen
  rw [run_issued h, runTask_database htask, run_bind_error hdatabase]
  rfl

lemma run_opened (h : Issued environment arguments world.files request config)
    (htask : usesDatabase request.task = true) {files : Files} {connection : Connection}
    {meant : String} (hmeant : pathMeant environment config request = .ok meant)
    (hopen : Connection.openWith (accessOf config) meant world.files =
      (files, .ok connection)) :
    run environment arguments world =
      ended ((actOf environment request.task connection).run
        { world with files, output := "" }) := by
  have hdatabase : (openDatabase environment config
      (request.database.or environment.database)).run { world with output := "" } =
        (.ok connection, { world with files, output := "" }) := by
    simp only [run_openDatabase, hmeant]
    exact @run_withFiles _ { world with output := "" } _ _ _ hopen
  rw [run_issued h, runTask_database htask, run_bind_ok hdatabase]

end ContentHub.Command
