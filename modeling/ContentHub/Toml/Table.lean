import ContentHub.Entries
import ContentHub.Toml.Basic

/-!
Building tables line by line. A line names a table by the keys on the way to it; tables that are
missing on the way come into being, and what was written once is never written again.
-/

namespace ContentHub.Toml

structure Table where
  kind : TableKind
  members : Entries Value
deriving Inhabited

namespace Table

def empty (kind : TableKind) : Table :=
  ⟨kind, []⟩

def toValue (table : Table) : Value :=
  .table table.kind table.members

def insert (key : String) (value : Value) (table : Table) : Table :=
  { table with members := Entries.insert key value table.members }

/-- Changes the table at the end of a path. Of tables that share a header the last one counts.
Keys with points may not lead through a table with a header. -/
def alter (byDots : Bool) : List String → (Table → Option Table) → Table → Option Table
  | [], change, table => change table
  | key :: rest, change, table =>
    match Entries.get? key table.members with
    | none =>
      (alter byDots rest change (empty (if byDots then .dotted else .implied))).map fun inner =>
        table.insert key inner.toValue
    | some (.table kind members) =>
      if kind = .inline ∨ (byDots ∧ kind = .headed) then none
      else
        (alter byDots rest change ⟨kind, members⟩).map fun inner => table.insert key inner.toValue
    | some (.tables items) =>
      match items.getLast? with
      | none => none
      | some members =>
        (alter byDots rest change ⟨.headed, members⟩).map fun inner =>
          table.insert key (.tables (items.dropLast ++ [inner.members]))
    | some _ => none

structure Pair where
  path : List String
  key : String
  value : Value

/-- Adds a value. Keys with points end in tables that came into being by points, and keys without
points never do. -/
def addPair (pair : Pair) (table : Table) : Option Table :=
  alter true pair.path
    (fun inner =>
      if (inner.kind = .dotted) = pair.path.isEmpty then none
      else if (Entries.get? pair.key inner.members).isSome then none
      else some (inner.insert pair.key pair.value))
    table

def addPairs (pairs : List Pair) (table : Table) : Option Table :=
  pairs.foldlM (fun table pair => table.addPair pair) table

end Table

inductive Header
  | single (path : List String) (key : String)
  | repeated (path : List String) (key : String)

structure Section where
  header : Header
  pairs : List Table.Pair

namespace Table

/-- Adds a table with a header. It may have come into being before, but only by the headers of
tables inside it. -/
def addSection (part : Section) (root : Table) : Option Table :=
  match part.header with
  | .single path key =>
    alter false path
      (fun parent =>
        let start :=
          match Entries.get? key parent.members with
          | none => some (empty .headed)
          | some (.table .implied members) => some ⟨.headed, members⟩
          | some _ => none
        (start.bind (addPairs part.pairs)).map fun table => parent.insert key table.toValue)
      root
  | .repeated path key =>
    alter false path
      (fun parent =>
        let before :=
          match Entries.get? key parent.members with
          | none => some []
          | some (.tables items) => some items
          | some _ => none
        before.bind fun items =>
          (addPairs part.pairs (empty .headed)).map fun table =>
            parent.insert key (.tables (items ++ [table.members])))
      root

end Table

end ContentHub.Toml
