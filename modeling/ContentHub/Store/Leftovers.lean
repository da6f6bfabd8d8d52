import ContentHub.Error
import ContentHub.Files.Basic

/-!
Files beside a database: the journal of changes that were not finished, and the log of changes that
are not in the database yet. The engine looks for both before it reads, and no text it finds there
is a journal or a log, so it throws them away. What it cannot throw away is in its way.
-/

namespace ContentHub.Store

def beside (place : Place) (ending : String) : Place :=
  place.dropLast ++ [place.getLastD "" ++ ending]

def journalPlace (place : Place) : Place :=
  beside place "-journal"

def logPlace (place : Place) : Place :=
  beside place "-wal"

/-- Whether the engine finds a database without content. It overlooks a single byte. -/
def isBlank (files : Files) (place : Place) : Bool :=
  match files.node? place with
  | some (.text content) => content.utf8ByteSize ≤ 1
  | some _ => false
  | none => true

def leftover? (files : Files) (place : Place) : Option Node :=
  match files.node? place with
  | some (.text "") => none
  | found => found

/-- Whether a journal was finished: it starts with a zero then. -/
def isFinished : Node → Bool
  | .text content => content.toList.head? == some '\x00'
  | _ => false

/-- Takes the journal of a database away. A database without content needs none, so then a
directory in its place does not matter yet. -/
def settleJournal (frozen : Bool) (place : Place) (files : Files) : Except EngineFault Files :=
  match leftover? files (journalPlace place) with
  | none => .ok files
  | some .directory => if isBlank files place then .ok files else .error .cannotRead
  | some node =>
    if isBlank files place then
      .ok (if frozen then files else files.remove (journalPlace place))
    else if isFinished node then .ok files
    else if frozen then .error .cannotWrite
    else .ok (files.remove (journalPlace place))

def settleLog (frozen : Bool) (place : Place) (files : Files) : Except EngineFault Files :=
  match leftover? files (logPlace place) with
  | none => .ok files
  | some .directory => .error (if isBlank files place then .cannotRead else .cannotOpen)
  | some _ => .ok (if frozen && !isBlank files place then files else files.remove (logPlace place))

/-- Takes away what is left beside a database. The journal goes first, and stays away if the log
is in the way. -/
def settle (frozen : Bool) (place : Place) (files : Files) : Files × Except EngineFault Unit :=
  match settleJournal frozen place files with
  | .error fault => (files, .error fault)
  | .ok files =>
    match settleLog frozen place files with
    | .error fault => (files, .error fault)
    | .ok files => (files, .ok ())

def hasRoomForJournal (place : Place) (files : Files) : Bool :=
  ((journalPlace place).getLastD "").utf8ByteSize ≤ Files.maxNameSize &&
    files.node? (journalPlace place) != some .directory

end ContentHub.Store
