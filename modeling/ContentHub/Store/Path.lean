import ContentHub.Json.Basic

/-!
Paths to values inside nested objects, and their written form. `pathText?` writes a path as a dollar
sign and a point with a quoted label for every key; it has no form for keys that hold a quotation
mark. `pathSteps` reads such a text back.
-/

namespace ContentHub.Store

abbrev Path := List String

def Path.display (path : Path) : String :=
  ".".intercalate path

def resolve : Path → Json → Option Json
  | [], node => some node
  | key :: rest, node => (node.member? key).bind (resolve rest)

def quotedLabel (key : String) : List Char :=
  '.' :: '"' :: key.toList ++ ['"']

def pathText? (path : Path) : Option (List Char) :=
  if path.any fun key => key.toList.contains '"' then none
  else some ('$' :: path.flatMap quotedLabel)

inductive Step
  | member (label : List Char)
  | broken
deriving DecidableEq, Repr

def labelSteps : List Char → List Step
  | [] => []
  | '.' :: '"' :: rest =>
    let label := rest.takeWhile (· ≠ '"')
    if label.length < rest.length then .member label :: labelSteps (rest.drop (label.length + 1))
    else [.broken]
  | _ => [.broken]
termination_by s => s.length
decreasing_by
  simp only [List.length_drop, List.length_cons]
  omega

def pathSteps : List Char → List Step
  | '$' :: rest => labelSteps rest
  | _ => [.broken]

end ContentHub.Store
