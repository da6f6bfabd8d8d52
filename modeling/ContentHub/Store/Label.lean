import ContentHub.Error
import ContentHub.Json.Basic
import ContentHub.Json.Escapes
import ContentHub.Store.Path

/-!
Looking up a written path in a document as the database engine does. A label is read as the inside
of a string literal, so a backslash in it starts an escape; the first member whose key it spells
counts. A text ends at its first U+0000.
-/

namespace ContentHub.Store

def upToNul (s : List Char) : List Char :=
  s.takeWhile (· ≠ '\x00')

namespace Label

def upToZero (codes : List Nat) : List Nat :=
  codes.takeWhile (· ≠ 0)

def spells (label : List Char) (key : List Nat) : Bool :=
  upToZero (Json.codes label) == upToZero key

end Label

/-- Follows steps down a document. A broken step is noticed when it is reached; `path` is the text
it stands in. -/
def follow (path : List Char) : List Step → Json.Outline → Except EngineFault (Option Json.Outline)
  | [], node => .ok (some node)
  | .broken :: _, _ => .error (.badPath (String.ofList path))
  | .member label :: rest, .object members =>
    match members.find? fun member => Label.spells label member.1 with
    | some member => follow path rest member.2
    | none => .ok none
  | .member _ :: _, _ => .ok none

def lookUp (path : List Char) (document : Json.Outline) :
    Except EngineFault (Option Json.Outline) :=
  follow (upToNul path) (pathSteps (upToNul path)) document

end ContentHub.Store
