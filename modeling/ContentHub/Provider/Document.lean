import ContentHub.Provider.Basic

/-!
Provider documents: the JSON form in which providers are stored. `ofDocument` is the only way from
a document to a provider, so nothing behind it has to look at the shape of documents again.
`toDocument` writes the canonical document of a provider.
-/

namespace ContentHub

open Shape Keyed Listed

def SearchIndex.record : Record SearchIndex where
  title := "struct IndexDefinition"
  keyed := do
    let name ← field? "name" text
    let kind ← field? "type" text
    let name ← required "name" name
    let kind ← required "type" kind
    return { name, kind }
  listed := do
    let wanted := "struct IndexDefinition with 2 elements"
    let name ← next text (.error (.tooFew 0 wanted))
    let kind ← next text (.error (.tooFew 1 wanted))
    return { name, kind }

def StageSpec.ofJson (value : Json) : Shaped StageSpec :=
  (Shape.members value).map StageSpec.mk

def stageSpecs : Json → Shaped (List StageSpec) :=
  list StageSpec.ofJson

def ContentType.record (id : String) : Record ContentType where
  title := "struct TypeDefinition"
  keyed := do
    let tag ← field? "dcp_type" (optional text)
    let index ← field? "index" (optional SearchIndex.record.read)
    let stages ← field? "input_preprocessors" (orEmpty [] stageSpecs)
    return { id, tag := tag.join, index := index.join, stages := stages.getD [] }
  listed := do
    let tag ← next (optional text) (.ok none)
    let index ← next (optional SearchIndex.record.read) (.ok none)
    let stages ← next (orEmpty [] stageSpecs) (.ok [])
    return { id, tag, index, stages }

def contentTypes : Json → Shaped (Entries ContentType) :=
  entries fun id => (ContentType.record id).read

namespace Provider

def keyed : Keyed Provider := do
  let name ← field? "name" text
  let passwordHash ← field? "pwd_hash" (optional text)
  let superProvider ← field? "super_provider" (optional flag)
  let types ← field? "type" (orEmpty [] contentTypes)
  let name ← required "name" name
  return {
    name
    passwordHash := passwordHash.join
    superProvider := superProvider.join
    types := types.getD [] }

def hasTypeMapping (members : List (String × Json)) : Bool :=
  match Entries.get? "type" members with
  | none => true
  | some .null => true
  | some (.object _) => true
  | some _ => false

def ofDocument (document : Json) : Except Error Provider :=
  match document with
  | .object members =>
    match Entries.get? "name" members with
    | some (.string name) =>
      if hasTypeMapping members then
        match keyed fun key => Entries.get? key members with
        | .ok provider => .ok provider
        | .error fault => .error (.integrity (.misshapen name fault))
      else .error (.integrity (.typesNotMapping name))
    | _ => .error (.integrity .noName)
  | _ => .error (.integrity .notAnObject)

end Provider

open Json (memberIfSome)

def SearchIndex.toJson (index : SearchIndex) : Json :=
  .object [("name", .string index.name), ("type", .string index.kind)]

def ContentType.toJson (type : ContentType) : Json :=
  .object (memberIfSome "dcp_type" (type.tag.map .string) ++
    memberIfSome "index" (type.index.map SearchIndex.toJson) ++
    [("input_preprocessors", .array (type.stages.map fun spec => .object spec.members))])

namespace Provider

def toDocument (provider : Provider) : Json :=
  .object ([("name", .string provider.name)] ++
    memberIfSome "pwd_hash" (provider.passwordHash.map .string) ++
    memberIfSome "super_provider" (provider.superProvider.map .bool) ++
    [("type", .object (provider.types.map fun entry => (entry.1, entry.2.toJson)))])

end Provider

end ContentHub
