import ContentHub.Store.Database
import ContentHub.Store.Leftovers
import ContentHub.Store.Locator

/-!
Connections to databases in a tree of files. A connection remembers where its database is and
whether it may write; the documents themselves stay in the tree, so what one connection writes the
next one reads. What a request changes in the tree stays even if the request fails.
-/

namespace ContentHub.Store

inductive Access
  | writing
  | reading
deriving DecidableEq, Repr, Inhabited

structure Connection where
  place : Place
  access : Access
  /-- Whether the engine refuses to write, whatever the access. -/
  frozen : Bool := false
  /-- Whether there is nothing to look for beside the database. -/
  apart : Bool := false
deriving DecidableEq, Repr, Inhabited

/-- Where a database without a name is kept. No path leads there, because file names are not
empty. -/
def unnamedPlace : Place := [""]

def maxDatabasePathSize : Nat := 504

def pathSize (place : Place) : Nat :=
  place.foldl (fun size part => size + part.utf8ByteSize + 1) 0

/-- Goes down a path as the engine does. It takes two points for the way back and does not mind
what is missing, but files on the way, long names and long ways end it. -/
def descend (files : Files) : Place → List String → Option Place
  | here, [] => if here = [] ∨ maxDatabasePathSize < pathSize here then none else some here
  | here, part :: rest =>
    let next := Files.step here part
    if Files.isIdle part ∨ part = ".." then descend files next rest
    else if maxDatabasePathSize + 7 < pathSize next then none
    else
      match files.walk [] next with
      | .ok _ => descend files next rest
      | .error .notFound => descend files next rest
      | .error _ => none

def enginePlace? (files : Files) (name : String) : Option Place :=
  descend files (if Files.isAbsolute name then [] else files.current) (Files.pathParts name)

/-- Finds or creates the file of a database; if it cannot be opened, answers the code for the
reason. A directory opens for reading, but has no first page. -/
def attach (locator : Locator) (files : Files) : Except Nat (Place × Files) :=
  match enginePlace? files locator.name with
  | none => .error 14
  | some place =>
    match files.node? place with
    | some .directory => .error (if locator.mode = .reading then 10 else 14)
    | some _ => .ok (place, files)
    | none =>
      if locator.mode = .create ∧ files.node? place.dropLast = some .directory then
        .ok (place, files.put place (.text ""))
      else .error 14

namespace Connection

def connect (access : Access) (path : String) (files : Files) : Files × Except Error Connection :=
  let locator := if isMemoryPath path then .ok { name := ":memory:" } else Locator.ofPath path
  if !isMemoryPath path && isRemotePath path then (files, .error (.storage (.notLocal path)))
  else
    match locator with
    | .error code => (files, .error (.storage (.cannotOpen path code)))
    | .ok locator =>
      if locator.isPrivate then
        (files.put unnamedPlace (.text ""),
          .ok { place := unnamedPlace, access, frozen := locator.isFrozen, apart := true })
      else
        match attach locator files with
        | .error code => (files, .error (.storage (.cannotOpen path code)))
        | .ok (place, files) =>
          (files, .ok { place, access, frozen := locator.isFrozen, apart := locator.immutable })

def settled (connection : Connection) (files : Files) : Files × Except EngineFault Unit :=
  if connection.apart then (files, .ok ()) else settle connection.frozen connection.place files

def read? (connection : Connection) (files : Files) : Except EngineFault (Option Database) :=
  match files.node? connection.place with
  | some (.database database) => .ok (some database)
  | _ => if isBlank files connection.place then .ok none else .error .notADatabase

def save (connection : Connection) (database : Database) (files : Files) :
    Except EngineFault Files :=
  if connection.frozen then .error .cannotWrite
  else if connection.apart then .ok (files.put connection.place (.database database))
  else if hasRoomForJournal connection.place files then
    .ok ((files.remove (journalPlace connection.place)).put connection.place (.database database))
  else .error .cannotOpen

def prepare (connection : Connection) (files : Files) : Files × Except EngineFault Unit :=
  match connection.settled files with
  | (files, .error fault) => (files, .error fault)
  | (files, .ok ()) =>
    match connection.read? files with
    | .error fault => (files, .error fault)
    | .ok (some _) => (files, .ok ())
    | .ok none =>
      match connection.save {} files with
      | .error fault => (files, .error fault)
      | .ok files => (files, .ok ())

def connectPrepared (path : String) (files : Files) : Files × Except Error Connection :=
  match connect .writing path files with
  | (files, .error e) => (files, .error e)
  | (files, .ok connection) =>
    match connection.prepare files with
    | (files, .error fault) => (files, .error (.storage (.migration 1 fault)))
    | (files, .ok ()) => (files, .ok connection)

def openWritable (path : String) (files : Files) : Files × Except Error Connection :=
  match (Files.parent? path).map fun parent => (parent, files.makeDirectories parent) with
  | some (parent, (files, some fault)) => (files, .error (.file parent fault))
  | some (_, (files, none)) => connectPrepared path files
  | none => connectPrepared path files

def openReadable (path : String) (files : Files) : Files × Except Error Connection :=
  if files.contains path then connect .reading path files
  else (files, .error (.storage (.noDatabase path)))

def openWith : Access → String → Files → Files × Except Error Connection
  | .writing, path, files => openWritable path files
  | .reading, path, files => openReadable path files

def checkWritable (connection : Connection) : Except Error Unit :=
  match connection.access with
  | .writing => .ok ()
  | .reading => .error (.storage .readOnly)

def database (connection : Connection) (files : Files) : Files × Except Error Database :=
  match connection.settled files with
  | (files, .error fault) => (files, .error (.storage (.engine fault)))
  | (files, .ok ()) =>
    match connection.read? files with
    | .error fault => (files, .error (.storage (.engine fault)))
    | .ok none => (files, .error (.storage (.engine .noTable)))
    | .ok (some database) => (files, .ok database)

def ask {α : Type} (connection : Connection) (question : Database → Except Error α)
    (files : Files) : Files × Except Error α :=
  match connection.database files with
  | (files, .error e) => (files, .error e)
  | (files, .ok database) => (files, question database)

def change {α : Type} (connection : Connection) (edit : Database → Except Error (α × Database))
    (files : Files) : Files × Except Error α :=
  match connection.checkWritable with
  | .error e => (files, .error e)
  | .ok () =>
    match connection.database files with
    | (files, .error e) => (files, .error e)
    | (files, .ok database) =>
      match edit database with
      | .error e => (files, .error e)
      | .ok (answer, database) =>
        match connection.save database files with
        | .error fault => (files, .error (.storage (.engine fault)))
        | .ok files => (files, .ok answer)

def insert (connection : Connection) (id stamp : String) (document : Json) :
    Files → Files × Except Error Unit :=
  connection.change fun database =>
    (database.insert id stamp document).map fun extended => ((), extended)

def get? (connection : Connection) (id : String) : Files → Files × Except Error (Option Json) :=
  connection.ask fun database => database.get? id

def erase (connection : Connection) (id : String) : Files → Files × Except Error Bool :=
  connection.change fun database => .ok ((database.row? id).isSome, database.erase id)

def list (connection : Connection) : Files → Files × Except Error (List Summary) :=
  connection.ask fun database => .ok database.list

def search (connection : Connection) (filter : Filter) : Files → Files × Except Error Hits :=
  connection.ask fun database => database.search filter

end Connection

end ContentHub.Store
