import ContentHub.Entries
import ContentHub.Error
import ContentHub.Text.Basic

namespace ContentHub

structure SearchIndex where
  name : String
  kind : String
deriving DecidableEq

structure StageSpec where
  members : List (String × Json)
deriving DecidableEq

structure ContentType where
  id : String
  tag : Option String
  index : Option SearchIndex
  stages : List StageSpec
deriving DecidableEq

structure Provider where
  name : String
  passwordHash : Option String
  superProvider : Option Bool
  types : Entries ContentType
deriving DecidableEq

namespace StageSpec

def name? (spec : StageSpec) : Option String :=
  (Entries.get? "name" spec.members).bind Json.text?

def class? (spec : StageSpec) : Option String :=
  (Entries.get? "class" spec.members).bind Json.text?

def settings? (spec : StageSpec) : Option Json :=
  Entries.get? "settings" spec.members

end StageSpec

def ContentType.checkedTag (type : ContentType) : Except Error String :=
  match type.tag with
  | some tag =>
    if Text.isBlankText (some tag) then .error (.integrity (.untaggedType type.id)) else .ok tag
  | none => .error (.integrity (.untaggedType type.id))

namespace Provider

def isSuper (provider : Provider) : Bool :=
  provider.superProvider.getD false

def type? (provider : Provider) (id : String) : Option ContentType :=
  Entries.get? id provider.types

end Provider

def contentId (tag localId : String) : String :=
  tag ++ "-" ++ localId

end ContentHub
