import ContentHub.Provider.Basic

/-!
Preparing content. The steps of a pipeline are built from their configuration by the constructors
of a registry. All of them are built before the first one runs, so a pipeline that cannot be built
leaves the content alone.
-/

namespace ContentHub

abbrev Content := Entries Json

structure Stage where
  name : String
  apply : Content → Content

abbrev StageConstructor := StageSpec → Except Error Stage

structure Registry where
  constructors : Entries StageConstructor := []
  sorted : constructors.Sorted := by exact Entries.sorted_nil

namespace Registry

def register (kind : String) (constructor : StageConstructor) (registry : Registry) : Registry where
  constructors := Entries.insert kind constructor registry.constructors
  sorted := Entries.sorted_insert _ _ _ registry.sorted

def kinds (registry : Registry) : List String :=
  registry.constructors.keys

def stage (registry : Registry) (index : Nat) (spec : StageSpec) : Except Error Stage :=
  match spec.class? with
  | none => .error (.integrity (.stageWithoutClass index spec.name?))
  | some kind =>
    match Entries.get? kind registry.constructors with
    | none => .error (.integrity (.unknownClass kind))
    | some constructor => constructor spec

def stages (registry : Registry) : (index : Nat) → List StageSpec → Except Error (List Stage)
  | _, [] => .ok []
  | index, spec :: rest => do
    let first ← registry.stage index spec
    let others ← registry.stages (index + 1) rest
    return first :: others

def runStages (stages : List Stage) (content : Content) : Content :=
  stages.foldl (fun content stage => stage.apply content) content

def run (registry : Registry) (specs : List StageSpec) (content : Content) : Except Error Content :=
  (registry.stages 0 specs).map fun stages => runStages stages content

end Registry

end ContentHub
