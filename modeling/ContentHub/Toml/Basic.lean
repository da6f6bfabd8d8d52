import ContentHub.Json.Basic

namespace ContentHub.Toml

inductive TableKind
  | headed
  | implied
  | dotted
  | inline
deriving DecidableEq, Repr, Inhabited

inductive Value
  | text (value : String)
  | whole (value : Int)
  | pointed (value : Option Decimal)
  | truth (value : Bool)
  | date (value : String)
  | array (items : List Value)
  | table (kind : TableKind) (members : List (String × Value))
  | tables (items : List (List (String × Value)))
deriving Repr, Inhabited

namespace Value

def dateKey : String := "date"

mutual

def toJson : Value → Json
  | .text s => .string s
  | .whole n => Json.whole n
  | .pointed x => .number (.pointed (x.getD default))
  | .truth b => .bool b
  | .date s => .object [(dateKey, .string s)]
  | .array items => .array (itemsToJson items)
  | .table _ members => .object (membersToJson members)
  | .tables items => .array (tablesToJson items)

def itemsToJson : List Value → List Json
  | [] => []
  | item :: rest => toJson item :: itemsToJson rest

def membersToJson : List (String × Value) → List (String × Json)
  | [] => []
  | (key, value) :: rest => (key, toJson value) :: membersToJson rest

def tablesToJson : List (List (String × Value)) → List Json
  | [] => []
  | members :: rest => .object (membersToJson members) :: tablesToJson rest

end

end Value

end ContentHub.Toml
