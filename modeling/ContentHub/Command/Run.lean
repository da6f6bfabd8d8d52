import ContentHub.Command.Usage
import ContentHub.Config
import ContentHub.Lookup
import ContentHub.Provider.Password
import ContentHub.Query.Document
import ContentHub.Query.Form
import ContentHub.Query.Request
import ContentHub.Query.Wildcard
import ContentHub.Store.Connection

namespace ContentHub.Command

structure Environment where
  home : Option String
  database : Option String := none
  fresh : Nat → String × String

structure World where
  files : Files
  minted : Nat := 0
  output : String := ""

inductive Failure
  | hub (error : Error)
  | cannotRead (file : String)
  | notJson (file : String)
  | notDocuments
  | noProvider (name : String)
  | noDocument (id : String)
  | notAuthenticated (name : String)
  | noType (id : String)
deriving DecidableEq

def Failure.message : Failure → String
  | .hub error => error.message
  | .cannotRead file => "cannot read " ++ file
  | .notJson file => file ++ " is not valid JSON"
  | .notDocuments => "expected a JSON object or an array of objects"
  | .noProvider name => "provider '" ++ name ++ "' not found"
  | .noDocument id => "no document with id '" ++ id ++ "'"
  | .notAuthenticated name => "authentication failed for provider '" ++ name ++ "'"
  | .noType id => "content type '" ++ id ++ "' not found"

abbrev Run := ExceptT Failure (StateM World)

namespace Run

def printLine (line : String) : Run Unit :=
  modify fun world => { world with output := world.output ++ line ++ "\n" }

def files : Run Files :=
  return (← get).files

def setFiles (files : Files) : Run Unit :=
  modify fun world => { world with files }

def check {α : Type} : Except Error α → Run α
  | .ok x => pure x
  | .error e => throw (.hub e)

def withFiles {α : Type} (act : Files → Files × Except Error α) : Run α := do
  let (files, result) := act (← files)
  setFiles files
  check result

def require {α : Type} (failure : Failure) : Option α → Run α
  | some x => pure x
  | none => throw failure

end Run

open Run

def backend (connection : Store.Connection) : Backend (StateM Files) where
  search filter := modifyGet fun files => (connection.search filter files).swap
  check name password stored := pure (Password.check name password stored)

def lookUp {α : Type} (act : StateM Files (Except Error α)) : Run α :=
  withFiles fun files => (act.run files).swap

def openDatabase (environment : Environment) (config : Config) (database : Option String) :
    Run Store.Connection := do
  let path ←
    match database with
    | some path => pure path
    | none => check (config.databasePath environment.home)
  let access := if config.storage.readOnly then Store.Access.reading else .writing
  withFiles (Store.Connection.openWith access path)

def documentsBy (parse? : String → Option Json) (file text : String) :
    Except Failure (List Json) :=
  match parse? text with
  | none => .error (.notJson file)
  | some (.array documents) => .ok documents
  | some (.object members) => .ok [.object members]
  | some _ => .error .notDocuments

def documentsOf (file text : String) : Except Failure (List Json) :=
  documentsBy Json.parse? file text

def nameOf (document : Json) : String :=
  ((document.member? "name").bind Json.text?).getD ""

def storeAll (environment : Environment) (connection : Store.Connection) : List Json → Run Unit
  | [] => pure ()
  | document :: rest => do
    let world ← get
    let (id, stamp) := environment.fresh world.minted
    withFiles (connection.insert id stamp document)
    modify fun world => { world with minted := world.minted + 1 }
    printLine (id ++ "  " ++ nameOf document)
    storeAll environment connection rest

def importFile (environment : Environment) (connection : Store.Connection) (file : String) :
    Run Unit := do
  match (← files).readText file with
  | .error _ => throw (.cannotRead file)
  | .ok text =>
    match documentsOf file text with
    | .error failure => throw failure
    | .ok documents => storeAll environment connection documents

def padded (width : Nat) (s : String) : String :=
  s ++ "".pushn ' ' (width - s.length)

def listDocuments (connection : Store.Connection) : Run Unit := do
  let rows ← withFiles connection.list
  if rows.isEmpty then printLine "No provider documents stored."
  else
    for row in rows do
      printLine (row.id ++ "  " ++ padded 24 row.name ++ " " ++ row.stamp)

def showProvider (connection : Store.Connection) (name : String) : Run Unit := do
  let found ← lookUp ((backend connection).findProvider name)
  let provider ← require (.noProvider name) found
  printLine provider.toDocument.pretty

def deleteDocument (connection : Store.Connection) (id : String) : Run Unit := do
  if ← withFiles (connection.erase id) then printLine ("Deleted " ++ id) else throw (.noDocument id)

def authenticate (connection : Store.Connection) (name password : String) : Run Unit := do
  if ← lookUp ((backend connection).authenticate (some name) (some password)) then
    printLine ("Provider '" ++ name ++ "' authenticated.")
  else throw (.notAuthenticated name)

def showType (connection : Store.Connection) (id : String) : Run Unit := do
  let found ← lookUp ((backend connection).findType id)
  let type ← require (.noType id) found
  printLine ("  Type:          " ++ type.id)
  printLine ("  dcp_type:      " ++ (← check type.checkedTag))
  printLine ("  Index name:    " ++ (type.index.map SearchIndex.name).getD "-")
  printLine ("  Index type:    " ++ (type.index.map SearchIndex.kind).getD "-")
  printLine ("  Preprocessors: " ++ toString type.stages.length)
  for spec in type.stages do
    printLine ("    - " ++ spec.name?.getD "unnamed" ++ " (" ++ spec.class?.getD "no class" ++ ")")

def settingsOf (parameters : List (String × String)) (strict : Bool) :
    Except Error Query.Settings :=
  (if strict then Query.settingsOfRequest (some (Query.Request.ofPairs parameters))
    else Query.settingsOfForm (some (Query.Form.ofPairs parameters))).bind
    fun settings => Query.canonicalSettings (some settings)

def initConfig (environment : Environment) : Run Unit := do
  printLine ("Config initialized at: " ++ (← withFiles (Config.init environment.home)))

def runTask (environment : Environment) (config : Config) (database : Option String) :
    Task → Run Unit
  | .canonicalText text => printLine (Query.canonicalText text)
  | .querySettings parameters strict => do
    printLine (← check (settingsOf parameters strict)).toJson.pretty
  | .importDocuments file => do
    importFile environment (← openDatabase environment config database) file
  | .listDocuments => do listDocuments (← openDatabase environment config database)
  | .showProvider name => do showProvider (← openDatabase environment config database) name
  | .deleteDocument id => do deleteDocument (← openDatabase environment config database) id
  | .authenticate name password => do
    authenticate (← openDatabase environment config database) name password
  | .hashPassword name password => printLine (Password.hash name password)
  | .showType id => do showType (← openDatabase environment config database) id
  | .contentId tag localId => printLine (ContentHub.contentId tag localId)
  | .initConfig => initConfig environment
  | .showConfig => printLine config.print

def runRequest (environment : Environment) (request : Request) : Run Unit := do
  let config ← check (Config.load environment.home (← files))
  runTask environment config (request.database.or environment.database) request.task

inductive Outcome
  | usage (fault : UsageFault)
  | success
  | failure (failure : Failure)
deriving DecidableEq

def run (environment : Environment) (arguments : List String) (world : World) : Outcome × World :=
  match parseArguments arguments with
  | .error fault => (.usage fault, world)
  | .ok request =>
    match (runRequest environment request).run { world with output := "" } with
    | (.ok (), world) => (.success, world)
    | (.error failure, world) => (.failure failure, world)

end ContentHub.Command
