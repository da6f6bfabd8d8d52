import ContentHub.Error
import ContentHub.Query.Basic
import ContentHub.Text.Natural

namespace ContentHub.Query

abbrev Request := Entries String

namespace Request

def ofPairs (pairs : List (String × String)) : Request :=
  Entries.ofList pairs

def word? (request : Request) (parameter : String) : Except Error (Option UInt32) :=
  match Entries.get? parameter request with
  | none => .ok none
  | some raw =>
    match Text.readWord raw with
    | .ok n => .ok (some n)
    | .error fault => .error (.badParameter parameter fault.message)

def order? (request : Request) : Except Error (Option Order) :=
  match Entries.get? "sortBy" request with
  | none => .ok none
  | some raw =>
    match Order.named? raw with
    | some order => .ok (some order)
    | none => .error (.badParameter "sortBy" "expected new or old")

def defaultSettings : Settings :=
  { defaulted := { interval := true } }

def settings (request : Request) : Except Error Settings := do
  let start ← request.word? "start"
  let count ← request.word? "count"
  let order ← request.order?
  return { defaultSettings with
    contentType := Text.content? (Entries.get? "type" request)
    order
    filters := some { start, count } }

end Request

def settingsOfRequest (request : Option Request) : Except Error Settings :=
  match request with
  | some request => request.settings
  | none => .ok Request.defaultSettings

end ContentHub.Query
