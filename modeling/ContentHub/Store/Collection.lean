import ContentHub.Store.Path

/-!
Filters on documents, what a search answers, and collections of documents in memory. A collection
takes documents of any shape and never removes one.
-/

namespace ContentHub.Store

inductive Filter
  | equals (path : Path) (text : String)
  | present (path : Path)
deriving DecidableEq, Repr

namespace Filter

def path : Filter → Path
  | .equals path _ => path
  | .present path => path

def accepts : Filter → Option Json → Bool
  | .equals _ text, some (.string s) => s == text
  | .equals _ _, _ => false
  | .present _, some node => !node.isNull
  | .present _, none => false

def acceptsOutline : Filter → Option Json.Outline → Bool
  | .equals _ text, some (.text codes) => codes == Json.textCodes text
  | .equals _ _, _ => false
  | .present _, some node => !node.isNull
  | .present _, none => false

def admits (filter : Filter) (document : Json) : Bool :=
  filter.accepts (resolve filter.path document)

end Filter

structure Hit where
  id : String
  source : Json
deriving DecidableEq, Repr

structure Hits where
  total : Nat
  hits : List Hit
deriving DecidableEq, Repr

def Hits.ofList (hits : List Hit) : Hits :=
  ⟨hits.length, hits⟩

structure Collection where
  documents : List Json := []
deriving DecidableEq, Repr, Inhabited

namespace Collection

def idAt (index : Nat) : String :=
  "doc-" ++ toString (index + 1)

def size (collection : Collection) : Nat :=
  collection.documents.length

def isEmpty (collection : Collection) : Bool :=
  collection.documents.isEmpty

def insert (document : Json) (collection : Collection) : String × Collection :=
  (idAt collection.size, ⟨collection.documents ++ [document]⟩)

def hits (collection : Collection) : List Hit :=
  collection.documents.mapIdx fun index document => ⟨idAt index, document⟩

def search (filter : Filter) (collection : Collection) : Hits :=
  .ofList (collection.hits.filter fun hit => filter.admits hit.source)

end Collection

end ContentHub.Store
