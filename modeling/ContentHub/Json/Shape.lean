import ContentHub.Json.Basic
import ContentHub.Text.Quoted

/-!
Reading typed values from JSON. A record is written as an object, whose keys are looked up by name,
or as an array that holds its fields in order. A value that does not fit is refused with the first
fault in reading order.
-/

namespace ContentHub

inductive ShapeFault
  | kind (got : Json) (wanted : String)
  | range (got : Int) (wanted : String)
  | missing (field : String)
  | tooFew (length : Nat) (wanted : String)
  | tooMany (length : Nat)
  | variant (got : String) (known : List String)
  | severalKeys
deriving DecidableEq

abbrev Shaped := Except ShapeFault

namespace ShapeFault

def describe : Json → String
  | .null => "null"
  | .bool b => "boolean `" ++ (if b then "true" else "false") ++ "`"
  | .number (.whole n) => "integer `" ++ toString n ++ "`"
  | .number (.pointed x) => "floating point `" ++ String.ofList x.compact ++ "`"
  | .string s => "string " ++ Text.quoted s
  | .array _ => "sequence"
  | .object _ => "map"

def inTicks (s : String) : String :=
  "`" ++ s ++ "`"

def alternatives : List String → String
  | [a] => inTicks a
  | [a, b] => inTicks a ++ " or " ++ inTicks b
  | known => "one of " ++ ", ".intercalate (known.map inTicks)

def message : ShapeFault → String
  | .kind got wanted => "invalid type: " ++ describe got ++ ", expected " ++ wanted
  | .range got wanted => "invalid value: integer `" ++ toString got ++ "`, expected " ++ wanted
  | .missing field => "missing field " ++ inTicks field
  | .tooFew length wanted => "invalid length " ++ toString length ++ ", expected " ++ wanted
  | .tooMany length => "invalid length " ++ toString length ++ ", expected fewer elements in array"
  | .variant got known => "unknown variant " ++ inTicks got ++ ", expected " ++ alternatives known
  | .severalKeys => "invalid value: map, expected map with a single key"

end ShapeFault

namespace Shape

variable {α : Type}

def text : Json → Shaped String
  | .string s => .ok s
  | got => .error (.kind got "a string")

def flag : Json → Shaped Bool
  | .bool b => .ok b
  | got => .error (.kind got "a boolean")

def word : Json → Shaped UInt32
  | .number (.whole n) =>
    if 0 ≤ n ∧ n < UInt32.size then .ok (UInt32.ofNat n.toNat) else .error (.range n "u32")
  | got => .error (.kind got "u32")

def list (item : Json → Shaped α) : Json → Shaped (List α)
  | .array items => items.mapM item
  | got => .error (.kind got "a sequence")

def members : Json → Shaped (List (String × Json))
  | .object members => .ok members
  | got => .error (.kind got "a map")

def entries (value : String → Json → Shaped α) : Json → Shaped (Entries α)
  | .object members =>
    members.mapM fun member => (value member.1 member.2).map fun x => (member.1, x)
  | got => .error (.kind got "a map")

def optional (read : Json → Shaped α) : Json → Shaped (Option α)
  | .null => .ok none
  | value => (read value).map some

def orEmpty (empty : α) (read : Json → Shaped α) (value : Json) : Shaped α :=
  (optional read value).map fun found => found.getD empty

def variantNamed (known : Entries α) (name : String) : Shaped α :=
  match Entries.get? name known with
  | some x => .ok x
  | none => .error (.variant name known.keys)

def variant (known : Entries α) : Json → Shaped α
  | .string name => variantNamed known name
  | .object [(name, value)] =>
    (variantNamed known name).bind fun x =>
      match value with
      | .null => .ok x
      | got => .error (.kind got "unit")
  | .object _ => .error .severalKeys
  | got => .error (.kind got "string or map")

end Shape

abbrev Keyed := ReaderT (String → Option Json) Shaped

abbrev Listed := StateT (List Json) Shaped

variable {α : Type}

def Keyed.field? (key : String) (read : Json → Shaped α) : Keyed (Option α) := fun find =>
  match find key with
  | none => .ok none
  | some value => (read value).map some

def Keyed.required (key : String) (found : Option α) : Keyed α := fun _ =>
  match found with
  | some x => .ok x
  | none => .error (.missing key)

def Listed.next (read : Json → Shaped α) (absent : Shaped α) : Listed α
  | [] => absent.map fun x => (x, [])
  | value :: rest => (read value).map fun x => (x, rest)

structure Record (α : Type) where
  title : String
  keyed : Keyed α
  listed : Listed α

namespace Record

def readWith (record : Record α) (surplus : Nat → List Json → Shaped Unit) : Json → Shaped α
  | .object members => record.keyed fun key => Entries.get? key members
  | .array items =>
    (record.listed items).bind fun (x, rest) => (surplus items.length rest).map fun _ => x
  | got => .error (.kind got record.title)

def read (record : Record α) : Json → Shaped α :=
  record.readWith fun length rest => if rest.isEmpty then .ok () else .error (.tooMany length)

def readLoosely (record : Record α) : Json → Shaped α :=
  record.readWith fun _ _ => .ok ()

end Record

end ContentHub
