import ContentHub.Error
import ContentHub.Files.Path
import ContentHub.Store.Database

/-!
A tree of files. Paths are followed step by step from the root or the current directory, and every
step needs a directory to start from.
-/

namespace ContentHub

abbrev Place := List String

inductive Node
  | directory
  | text (content : String)
  | binary
  | database (content : Store.Database)
deriving DecidableEq, Repr, Inhabited

structure Files where
  current : Place := []
  nodes : List (Place × Node) := []
deriving Repr, Inhabited

namespace Files

def node? (files : Files) (place : Place) : Option Node :=
  if place = [] then some .directory else files.nodes.lookup place

def put (place : Place) (node : Node) (files : Files) : Files :=
  { files with nodes := (place, node) :: files.nodes.filter fun entry => entry.1 ≠ place }

def remove (place : Place) (files : Files) : Files :=
  { files with nodes := files.nodes.filter fun entry => entry.1 ≠ place }

theorem node?_put_self (place : Place) (node : Node) (files : Files) (h : place ≠ []) :
    (files.put place node).node? place = some node := by
  simp [node?, put, h]

theorem lookup_filter_of_ne (place other : Place) (nodes : List (Place × Node))
    (h : other ≠ place) :
    (nodes.filter fun entry => entry.1 ≠ place).lookup other = nodes.lookup other := by
  induction nodes with
  | nil => rfl
  | cons entry rest ih =>
    obtain ⟨p, node⟩ := entry
    by_cases hp : p = place
    · subst hp
      have hb : (other == p) = false := beq_false_of_ne h
      simp only [ne_eq, not_true, decide_false, List.filter_cons, List.lookup_cons, hb]
      exact ih
    · simp only [ne_eq, hp, not_false_eq_true, decide_true, List.filter_cons, if_true,
        List.lookup_cons]
      rw [← ih]

theorem node?_put_of_ne (place other : Place) (node : Node) (files : Files) (h : other ≠ place) :
    (files.put place node).node? other = files.node? other := by
  have hb : (other == place) = false := beq_false_of_ne h
  simp only [node?, put, List.lookup_cons, hb, lookup_filter_of_ne place other files.nodes h]

theorem node?_remove_of_ne (place other : Place) (files : Files) (h : other ≠ place) :
    (files.remove place).node? other = files.node? other := by
  simp only [node?, remove, lookup_filter_of_ne place other files.nodes h]

def maxNameSize : Nat := 255

def maxPathSize : Nat := 4095

def step (here : Place) (part : String) : Place :=
  if isIdle part then here
  else if part = ".." then here.dropLast
  else here ++ [part]

def placeOf (files : Files) (path : String) : Place :=
  (pathParts path).foldl step (if isAbsolute path then [] else files.current)

def walk (files : Files) : Place → List String → Except FileFault Place
  | here, [] => .ok here
  | here, part :: rest =>
    match files.node? here with
    | some .directory =>
      if maxNameSize < part.utf8ByteSize then .error .nameTooLong
      else walk files (step here part) rest
    | some _ => .error .notADirectory
    | none => .error .notFound

def locate (files : Files) (path : String) : Except FileFault Place :=
  if path.isEmpty then .error .notFound
  else if path.toList.contains '\x00' then .error .nulInName
  else if maxPathSize < path.utf8ByteSize then .error .nameTooLong
  else walk files (if isAbsolute path then [] else files.current) (pathParts path)

def find (files : Files) (path : String) : Except FileFault Node :=
  (files.locate path).bind fun place =>
    match files.node? place with
    | some node => .ok node
    | none => .error .notFound

def contains (files : Files) (path : String) : Bool :=
  (files.find path).isOk

def isDirectory (files : Files) (path : String) : Bool :=
  match files.find path with
  | .ok .directory => true
  | _ => false

def readText (files : Files) (path : String) : Except FileFault String :=
  (files.find path).bind fun node =>
    match node with
    | .text content => .ok content
    | .directory => .error .isADirectory
    | .binary => .error .notText
    | .database _ => .error .notText

def writeText (path content : String) (files : Files) : Except FileFault Files :=
  (files.locate path).bind fun place =>
    match files.node? place with
    | some .directory => .error .isADirectory
    | _ =>
      match files.node? place.dropLast with
      | some .directory => .ok (files.put place (.text content))
      | some _ => .error .notADirectory
      | none => .error .notFound

def withoutFinalSlashes (path : String) : String :=
  String.ofList (path.toList.reverse.dropWhile (· == '/')).reverse

def makeDirectory (path : String) (files : Files) : Except FileFault Files :=
  if maxPathSize < path.utf8ByteSize then .error .nameTooLong
  else if path.toList.all (· == '/') ∧ isAbsolute path then .error .alreadyExists
  else
    (files.locate (withoutFinalSlashes path)).bind fun place =>
      match files.node? place with
      | some _ => .error .alreadyExists
      | none =>
        match files.node? place.dropLast with
        | some .directory => .ok (files.put place .directory)
        | some _ => .error .notADirectory
        | none => .error .notFound

/-- Creates the first of some directories, and before it those of the others that it needs. What
was created stays even if a later one cannot be. -/
def makeChain : List String → Files → Files × Option FileFault
  | [], files => (files, some .notFound)
  | path :: above, files =>
    if path.isEmpty then (files, none)
    else
      match files.makeDirectory path with
      | .ok made => (made, none)
      | .error .notFound =>
        match makeChain above files with
        | (files, some fault) => (files, some fault)
        | (files, none) =>
          match files.makeDirectory path with
          | .ok made => (made, none)
          | .error fault => (files, if files.isDirectory path then none else some fault)
      | .error fault => (files, if files.isDirectory path then none else some fault)

def makeDirectories (path : String) (files : Files) : Files × Option FileFault :=
  makeChain (selfAndAncestors path) files

end Files

end ContentHub
