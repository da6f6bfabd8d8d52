import ContentHub.Json.Printer
import ContentHub.Json.Relaxed
import ContentHub.Provider.Document
import ContentHub.Store.Collection
import ContentHub.Store.Label

/-!
Databases of provider documents. Documents are kept as text in the order they came, each with the
name of its provider and the time it came beside it. A search follows the written path of its filter
through every text; a filter whose path cannot be written is tried on every document instead. Lists
and searches sort what they answer by the times. A database is archived as a line that names the
format and the rows as JSON; a text without that line is no database.
-/

namespace ContentHub.Store

structure Row where
  id : String
  name : String
  text : String
  stamp : String
deriving DecidableEq, Repr

structure Summary where
  id : String
  name : String
  stamp : String
deriving DecidableEq, Repr

namespace Row

/-- A text is read up to its first U+0000. -/
def chars (row : Row) : List Char :=
  upToNul row.text.toList

def document (row : Row) : Except Error Json :=
  match Json.read? row.chars with
  | some document => .ok document.normal
  | none => .error (.storage (.unreadable row.id))

def outline (row : Row) : Except EngineFault Json.Outline :=
  match Json.readOutline? row.chars with
  | some outline => .ok outline
  | none => .error .malformedText

def hit (row : Row) : Except Error Hit :=
  row.document.map fun source => ⟨row.id, source⟩

def summary (row : Row) : Summary :=
  ⟨row.id, String.ofList (upToNul row.name.toList), row.stamp⟩

def precedes (row other : Row) : Bool :=
  row.name < other.name || row.name == other.name && row.stamp ≤ other.stamp

def satisfies (row : Row) (path : List Char) (filter : Filter) : Except EngineFault Bool := do
  let node ← lookUp path (← row.outline)
  return filter.acceptsOutline node

end Row

structure Database where
  rows : List Row := []
deriving DecidableEq, Repr, Inhabited

namespace Database

def insert (id stamp : String) (document : Json) (database : Database) : Except Error Database :=
  (Provider.ofDocument document).map fun provider =>
    ⟨database.rows ++ [⟨id, provider.name, document.print, stamp⟩]⟩

def row? (id : String) (database : Database) : Option Row :=
  database.rows.find? fun row => row.id == id

def get? (id : String) (database : Database) : Except Error (Option Json) :=
  match database.row? id with
  | some row => row.document.map some
  | none => .ok none

def erase (id : String) (database : Database) : Database :=
  ⟨database.rows.filter fun row => row.id != id⟩

def overwrite (id text : String) (database : Database) : Database :=
  ⟨database.rows.map fun row => if row.id == id then { row with text } else row⟩

def list (database : Database) : List Summary :=
  (database.rows.mergeSort Row.precedes).map Row.summary

def byTime (rows : List Row) : List Row :=
  rows.mergeSort fun row other => row.stamp ≤ other.stamp

def select (path : List Char) (filter : Filter) : List Row → Except EngineFault (List Row)
  | [] => .ok []
  | row :: rest => do
    let kept ← row.satisfies path filter
    let others ← select path filter rest
    return if kept then row :: others else others

def scan (filter : Filter) (database : Database) : Except Error Hits := do
  let hits ← (byTime database.rows).mapM Row.hit
  return .ofList (hits.filter fun hit => filter.admits hit.source)

def search (filter : Filter) (database : Database) : Except Error Hits :=
  match pathText? filter.path with
  | some path =>
    match select path filter database.rows with
    | .ok rows => ((byTime rows).mapM Row.hit).map Hits.ofList
    | .error fault => .error (.storage (.engine fault))
  | none => database.scan filter

end Database

def archiveTitle : String :=
  "content hub database 1\n"

def Row.toJson (row : Row) : Json :=
  .array [.string row.id, .string row.name, .string row.text, .string row.stamp]

def Row.ofJson? : Json → Option Row
  | .array [.string id, .string name, .string text, .string stamp] => some ⟨id, name, text, stamp⟩
  | _ => none

namespace Database

def archive (database : Database) : String :=
  archiveTitle ++ (Json.array (database.rows.map Row.toJson)).print ++ "\n"

def ofArchive? (text : String) : Option Database :=
  let title := archiveTitle.toList
  if title.isPrefixOf text.toList then
    match Json.parse? (String.ofList (text.toList.drop title.length)) with
    | some (.array rows) => (rows.mapM Row.ofJson?).map Database.mk
    | _ => none
  else none

end Database

end ContentHub.Store
