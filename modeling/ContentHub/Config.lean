import ContentHub.Files.Basic
import ContentHub.Toml.Printer
import ContentHub.Toml.Reader

namespace ContentHub

structure StorageConfig where
  databasePath : String := "~/.dcp/providers.db"
  readOnly : Bool := false
deriving DecidableEq, Repr, Inhabited

structure LoggingConfig where
  filter : String := "dcp=info"
deriving DecidableEq, Repr, Inhabited

structure Config where
  storage : StorageConfig := {}
  logging : LoggingConfig := {}
deriving DecidableEq, Repr, Inhabited

open Shape Keyed Listed

def StorageConfig.record : Record StorageConfig where
  title := "a storage section"
  keyed := do
    let databasePath ← field? "db_path" text
    let readOnly ← field? "readonly" flag
    let default : StorageConfig := {}
    return {
      databasePath := databasePath.getD default.databasePath
      readOnly := readOnly.getD default.readOnly }
  listed := do
    let default : StorageConfig := {}
    let databasePath ← next text (.ok default.databasePath)
    let readOnly ← next flag (.ok default.readOnly)
    return { databasePath, readOnly }

def LoggingConfig.record : Record LoggingConfig where
  title := "a logging section"
  keyed := do
    let filter ← field? "filter" text
    let default : LoggingConfig := {}
    return { filter := filter.getD default.filter }
  listed := do
    let default : LoggingConfig := {}
    let filter ← next text (.ok default.filter)
    return { filter }

namespace Config

def record : Record Config where
  title := "a configuration"
  keyed := do
    let storage ← field? "storage" StorageConfig.record.readLoosely
    let logging ← field? "logging" LoggingConfig.record.readLoosely
    return { storage := storage.getD {}, logging := logging.getD {} }
  listed := do
    let storage ← next StorageConfig.record.readLoosely (.ok {})
    let logging ← next LoggingConfig.record.readLoosely (.ok {})
    return { storage, logging }

def parse? (text : String) : Option Config :=
  (Toml.parse? text).bind fun value => (record.readLoosely value.toJson).toOption

def print (config : Config) : String :=
  "[storage]\ndb_path = " ++ Toml.printString config.storage.databasePath ++
    "\nreadonly = " ++ (if config.storage.readOnly then "true" else "false") ++
    "\n\n[logging]\nfilter = " ++ Toml.printString config.logging.filter ++ "\n"

def toJson (config : Config) : Json :=
  .object [
    ("storage", .object [("db_path", .string config.storage.databasePath),
      ("readonly", .bool config.storage.readOnly)]),
    ("logging", .object [("filter", .string config.logging.filter)])]

def homeOf (home : Option String) : Except Error String :=
  match home with
  | some home => .ok home
  | none => .error (.config "could not determine home directory")

def expandHome (home : Option String) (path : String) : Except Error String :=
  match path.toList with
  | '~' :: '/' :: rest => (homeOf home).map fun home => Files.join home (String.ofList rest)
  | _ => .ok path

def directory (home : Option String) : Except Error String :=
  (homeOf home).map fun home => Files.join home ".dcp"

def filePath (home : Option String) : Except Error String :=
  (directory home).map fun directory => Files.join directory "dcp.toml"

def loadFrom (path : String) (files : Files) : Except Error Config :=
  match files.readText path with
  | .error fault => .error (.file path fault)
  | .ok text =>
    match parse? text with
    | some config => .ok config
    | none => .error (.config ("failed to parse " ++ path))

def load (home : Option String) (files : Files) : Except Error Config :=
  (filePath home).bind fun path =>
    if files.contains path then loadFrom path files else .ok {}

def init (home : Option String) (files : Files) : Files × Except Error String :=
  match directory home with
  | .error e => (files, .error e)
  | .ok directory =>
    match files.makeDirectories directory with
    | (files, some fault) => (files, .error (.file directory fault))
    | (files, none) =>
      let path := Files.join directory "dcp.toml"
      match files.writeText path (print {}) with
      | .ok files => (files, .ok path)
      | .error fault => (files, .error (.file path fault))

def databasePath (home : Option String) (config : Config) : Except Error String :=
  expandHome home config.storage.databasePath

end Config

end ContentHub
