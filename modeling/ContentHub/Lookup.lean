import ContentHub.Provider.Document
import ContentHub.Store.Collection

/-!
Looking up providers and content types. A lookup asks a store for every document that matches and
refuses to choose: two documents with one name, or two types with one id, are an error of the
configuration.
-/

namespace ContentHub

structure Backend (m : Type → Type) where
  search : Store.Filter → m (Except Error Store.Hits)
  check : (name password stored : String) → m Bool

namespace Lookup

def onlySource (hits : Store.Hits) (several : IntegrityFault) : Except Error (Option Json) :=
  match hits.total with
  | 0 => .ok none
  | 1 =>
    match hits.hits with
    | hit :: _ => .ok (some hit.source)
    | [] => .error (.storage .hitsMissing)
  | _ => .error (.integrity several)

def nameFilter (name : String) : Store.Filter :=
  .equals ["name"] name

def typeFilter (id : String) : Store.Filter :=
  .present ["type", id, "dcp_type"]

def providerOf (name : String) (hits : Store.Hits) : Except Error (Option Provider) := do
  match ← onlySource hits (.duplicateProvider name) with
  | some source => return some (← Provider.ofDocument source)
  | none => return none

def typeOf (id : String) (hits : Store.Hits) : Except Error (Option ContentType) := do
  match ← onlySource hits (.duplicateType id) with
  | some source => return (← Provider.ofDocument source).type? id
  | none => return none

end Lookup

namespace Backend

variable {m : Type → Type} [Monad m]

def findProvider (backend : Backend m) (name : String) : m (Except Error (Option Provider)) := do
  return (← backend.search (Lookup.nameFilter name)).bind (Lookup.providerOf name)

def findType (backend : Backend m) (id : String) : m (Except Error (Option ContentType)) := do
  return (← backend.search (Lookup.typeFilter id)).bind (Lookup.typeOf id)

def authenticate (backend : Backend m) (name password : Option String) : m (Except Error Bool) :=
  match name, password with
  | some name, some password => do
    match ← backend.findProvider name with
    | .error e => return .error e
    | .ok found =>
      match found.bind Provider.passwordHash with
      | some stored => return .ok (← backend.check name password stored)
      | none => return .ok false
  | _, _ => return .ok false

def isSuper (backend : Backend m) (name : String) : m (Except Error Bool) := do
  return (← backend.findProvider name).map fun found => (found.map Provider.isSuper).getD false

end Backend

end ContentHub
