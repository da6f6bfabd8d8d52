import ContentHub.Command.Run
import ContentHub.Store.Database
import Std.Time.DateTime.Timestamp

namespace ContentHub.Clock

def epochDay : Nat := 719468

-- years start in March here, so that a leap day is the last of its year
def civil (days : Nat) : Nat × Nat × Nat :=
  let shifted := days + epochDay
  let era := shifted / 146097
  let dayOfEra := shifted % 146097
  let yearOfEra := (dayOfEra - dayOfEra / 1460 + dayOfEra / 36524 - dayOfEra / 146096) / 365
  let dayOfYear := dayOfEra - (365 * yearOfEra + yearOfEra / 4 - yearOfEra / 100)
  let month := (5 * dayOfYear + 2) / 153
  let day := dayOfYear - (153 * month + 2) / 5 + 1
  let year := yearOfEra + era * 400
  if month < 10 then (year, month + 3, day) else (year + 1, month - 9, day)

def padded (width n : Nat) : String :=
  let digits := toString n
  "".pushn '0' (width - digits.length) ++ digits

def parts (nanoseconds : Nat) : String :=
  if nanoseconds = 0 then ""
  else if nanoseconds % 1000000 = 0 then "." ++ padded 3 (nanoseconds / 1000000)
  else if nanoseconds % 1000 = 0 then "." ++ padded 6 (nanoseconds / 1000)
  else "." ++ padded 9 nanoseconds

def stamp (time : Nat) : String :=
  let seconds := time / 1000000000
  let (year, month, day) := civil (seconds / 86400)
  let rest := seconds % 86400
  padded 4 year ++ "-" ++ padded 2 month ++ "-" ++ padded 2 day ++ "T" ++
    padded 2 (rest / 3600) ++ ":" ++ padded 2 (rest / 60 % 60) ++ ":" ++ padded 2 (rest % 60) ++
    parts (time % 1000000000) ++ "+00:00"

end ContentHub.Clock

namespace ContentHub.Main

def pathTo (place : Place) : String :=
  "/" ++ "/".intercalate place

def loadNode (path : String) : IO (Option Node) := do
  try
    let text ← IO.FS.readFile path
    match Store.Database.ofArchive? text with
    | some database => return some (.database database)
    | none => return some (.text text)
  catch e =>
    match e with
    | .noFileOrDirectory .. => return none
    | .inappropriateType .. => return some .directory
    | _ => return some .binary

def loadPlace (files : Files) (above : Place) : List String → IO Files
  | [] => return files
  | name :: rest => do
    let place := above ++ [name]
    match ← loadNode (pathTo place) with
    | some .directory => loadPlace (files.put place .directory) place rest
    | some node => return files.put place node
    | none => return files

def loadPaths (files : Files) (paths : List String) : IO Files :=
  paths.foldlM (fun files path => loadPlace files [] (files.placeOf path)) files

def loadDatabase (files : Files) (path : String) : IO Files := do
  let name := ((Store.Locator.ofPath path).toOption.map Store.Locator.name).getD path
  let files ← loadPaths files [path, name]
  let place := files.placeOf name
  [Store.journalPlace place, Store.logPlace place].foldlM (fun files => loadPlace files []) files

def taskPaths : Command.Task → List String
  | .importDocuments file => [file]
  | _ => []

def writeNode (path : String) : Node → IO Unit
  | .directory => IO.FS.createDirAll path
  | .text content => IO.FS.writeFile path content
  | .database content => IO.FS.writeFile path content.archive
  | .binary => pure ()

def writeChanges (before after : Files) : IO Unit := do
  for (place, node) in after.nodes.reverse do
    unless place = Store.unnamedPlace ∨ before.node? place = some node do
      writeNode (pathTo place) node
  for (place, _) in before.nodes do
    if (after.node? place).isNone then IO.FS.removeFile (pathTo place)

def freshId (seed : String) (n : Nat) : String :=
  let digits := (Digest.Sha256.hex (Password.utf8 (seed ++ toString n))).toList
  let group := fun (start length : Nat) => String.ofList ((digits.drop start).take length)
  "-".intercalate [group 0 8, group 8 4, group 12 4, group 16 4, group 20 12]

def environment : IO Command.Environment := do
  let now ← Std.Time.Timestamp.now
  let time := now.toNanosecondsSinceUnixEpoch.val.toNat
  let seed := toString (← IO.rand 0 UInt64.size) ++ Clock.stamp time
  return {
    home := (← IO.getEnv "HOME").filter fun home => !home.isEmpty
    database := ← IO.getEnv "DCP_DB"
    fresh := fun n => (freshId seed n, Clock.stamp (time + n)) }

def runRequest (environment : Command.Environment) (arguments : List String)
    (request : Command.Request) : IO UInt32 := do
  let current := (Files.pathParts (← IO.currentDir).toString).filter fun part => !Files.isIdle part
  let configPaths := (Config.filePath environment.home).toOption.toList
  let files ← loadPaths { current } ((← IO.currentDir).toString :: configPaths)
  let config := (Config.load environment.home files).toOption.getD {}
  let database := (request.database.or environment.database).or
    (config.databasePath environment.home).toOption
  let files ← database.toList.foldlM loadDatabase files
  let files ← loadPaths files (taskPaths request.task)
  let (outcome, world) := Command.run environment arguments { files }
  IO.print world.output
  writeChanges files world.files
  match outcome with
  | .failure failure =>
    IO.eprintln ("Error: " ++ failure.message)
    return 1
  | _ => return 0

end ContentHub.Main

def main (arguments : List String) : IO UInt32 := do
  match ContentHub.Command.parseArguments arguments with
  | .error fault =>
    match fault with
    | .displayVersion => IO.println ContentHub.Command.title
    | .displayHelp => IO.println ContentHub.Command.helpText
    | .helpInstead => IO.eprintln ContentHub.Command.helpText
    | fault => IO.eprintln ("error: " ++ fault.message)
    return UInt32.ofNat fault.exitCode
  | .ok request =>
    ContentHub.Main.runRequest (← ContentHub.Main.environment) arguments request
