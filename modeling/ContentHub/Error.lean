import ContentHub.Json.Shape

namespace ContentHub

inductive IntegrityFault
  | notAnObject
  | noName
  | typesNotMapping (provider : String)
  | misshapen (provider : String) (fault : ShapeFault)
  | duplicateProvider (name : String)
  | duplicateType (typeId : String)
  | untaggedType (typeId : String)
  | stageWithoutClass (index : Nat) (name : Option String)
  | unknownClass (name : String)
  | stated (text : String)
deriving DecidableEq

inductive EngineFault
  | notADatabase
  | noTable
  | cannotOpen
  | cannotRead
  | cannotWrite
  | malformedText
  | badPath (path : String)
deriving DecidableEq

inductive StorageFault
  | readOnly
  | noDatabase (path : String)
  | cannotOpen (path : String) (code : Nat)
  | notLocal (path : String)
  | migration (version : Nat) (fault : EngineFault)
  | engine (fault : EngineFault)
  | unreadable (id : String)
  | hitsMissing
  | stated (text : String)
deriving DecidableEq

inductive FileFault
  | notFound
  | alreadyExists
  | notADirectory
  | isADirectory
  | nameTooLong
  | nulInName
  | notText
  | stated (text : String)
deriving DecidableEq

inductive Error
  | invalidInput (text : String)
  | badParameter (name : String) (description : Option String)
  | integrity (fault : IntegrityFault)
  | config (text : String)
  | storage (fault : StorageFault)
  | serialization (text : String)
  | file (path : String) (fault : FileFault)
deriving DecidableEq

namespace IntegrityFault

def text : IntegrityFault → String
  | .notAnObject => "Provider configuration document is not a JSON object."
  | .noName => "Provider configuration document has no valid 'name' field."
  | .typesNotMapping provider =>
    "Incorrect configuration for provider '" ++ provider ++ "': 'type' is not a mapping."
  | .misshapen provider fault =>
    "Incorrect configuration for provider '" ++ provider ++ "': " ++ fault.message ++ "."
  | .duplicateProvider name =>
    "More than one configurations found for content provider name '" ++ name ++ "'."
  | .duplicateType typeId =>
    "More than one configurations found for dcp_content_type=" ++ typeId ++ "."
  | .untaggedType typeId =>
    "dcp_type is not defined correctly for dcp_provider_type=" ++ typeId ++ "."
  | .stageWithoutClass index name =>
    "Preprocessor #" ++ toString index ++ " (" ++ name.getD "unnamed" ++
      ") has no 'class' configured."
  | .unknownClass name => "Unknown preprocessor class '" ++ name ++ "'."
  | .stated text => text

def hint : String := "Contact administrators please."

def message (fault : IntegrityFault) : String :=
  fault.text ++ " " ++ hint

end IntegrityFault

def doubledMark (c : Char) : List Char :=
  if c = '\'' then [c, c] else [c]

def EngineFault.text : EngineFault → String
  | .notADatabase => "file is not a database"
  | .noTable => "no such table: provider_documents"
  | .cannotOpen => "unable to open database file"
  | .cannotRead => "disk I/O error"
  | .cannotWrite => "attempt to write a readonly database"
  | .malformedText => "malformed JSON"
  | .badPath path =>
    "bad JSON path: '" ++ String.ofList (path.toList.flatMap doubledMark) ++ "'"

def EngineFault.message (fault : EngineFault) : String :=
  "SQLite failure: `" ++ fault.text ++ "`"

def StorageFault.message : StorageFault → String
  | .readOnly => "database is opened in read-only mode"
  | .noDatabase path => "database " ++ path ++ " does not exist"
  | .cannotOpen path code =>
    "Failed to connect to database: `Unable to open connection to local database " ++ path ++
      ": " ++ toString code ++ "`"
  | .notLocal path =>
    "Failed to connect to database: `Unable to open local database " ++ path ++
      " with Database::open()`"
  | .migration version fault => "migration v" ++ toString version ++ " failed: " ++ fault.message
  | .engine fault => fault.message
  | .unreadable id => "stored document " ++ id ++ " is not valid JSON"
  | .hitsMissing => "store reported one hit but returned none"
  | .stated text => text

def FileFault.message : FileFault → String
  | .notFound => "No such file or directory (os error 2)"
  | .alreadyExists => "File exists (os error 17)"
  | .notADirectory => "Not a directory (os error 20)"
  | .isADirectory => "Is a directory (os error 21)"
  | .nameTooLong => "File name too long (os error 36)"
  | .nulInName => "file name contained an unexpected NUL byte"
  | .notText => "stream did not contain valid UTF-8"
  | .stated text => text

namespace Error

def message : Error → String
  | .invalidInput text => "invalid input: " ++ text
  | .badParameter name description =>
    "Parameter " ++ name ++ " has bad value" ++
      match description with
      | some description => ": " ++ description
      | none => ""
  | .integrity fault => "configuration integrity violation: " ++ fault.message
  | .config text => "config error: " ++ text
  | .storage fault => "storage error: " ++ fault.message
  | .serialization text => "serialization error: " ++ text
  | .file path fault => "I/O error at " ++ Text.quoted path ++ ": " ++ fault.message

def parameter? : Error → Option String
  | .badParameter name _ => some name
  | _ => none

def isClientFault : Error → Bool
  | .invalidInput _ => true
  | .badParameter _ _ => true
  | _ => false

end Error

end ContentHub
