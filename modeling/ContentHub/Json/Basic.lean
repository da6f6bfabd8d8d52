import ContentHub.Decimal.Basic
import ContentHub.Entries

namespace ContentHub

inductive Number
  | whole (value : Int)
  | pointed (value : Decimal)
deriving DecidableEq, Repr, Inhabited

inductive Json
  | null
  | bool (value : Bool)
  | number (value : Number)
  | string (value : String)
  | array (items : List Json)
  | object (members : List (String × Json))
deriving Repr, Inhabited

namespace Json

mutual

def decEq : (a b : Json) → Decidable (a = b)
  | .null, .null => isTrue rfl
  | .bool a, .bool b =>
    if h : a = b then isTrue (h ▸ rfl) else isFalse fun e => h (by injection e)
  | .number a, .number b =>
    if h : a = b then isTrue (h ▸ rfl) else isFalse fun e => h (by injection e)
  | .string a, .string b =>
    if h : a = b then isTrue (h ▸ rfl) else isFalse fun e => h (by injection e)
  | .array a, .array b =>
    match itemsDecEq a b with
    | isTrue h => isTrue (h ▸ rfl)
    | isFalse h => isFalse fun e => h (by injection e)
  | .object a, .object b =>
    match membersDecEq a b with
    | isTrue h => isTrue (h ▸ rfl)
    | isFalse h => isFalse fun e => h (by injection e)
  | .null, .bool _ | .null, .number _ | .null, .string _ | .null, .array _ | .null, .object _
  | .bool _, .null | .bool _, .number _ | .bool _, .string _ | .bool _, .array _
  | .bool _, .object _ | .number _, .null | .number _, .bool _ | .number _, .string _
  | .number _, .array _ | .number _, .object _ | .string _, .null | .string _, .bool _
  | .string _, .number _ | .string _, .array _ | .string _, .object _ | .array _, .null
  | .array _, .bool _ | .array _, .number _ | .array _, .string _ | .array _, .object _
  | .object _, .null | .object _, .bool _ | .object _, .number _ | .object _, .string _
  | .object _, .array _ => isFalse fun e => by injection e

def itemsDecEq : (a b : List Json) → Decidable (a = b)
  | [], [] => isTrue rfl
  | [], _ :: _ | _ :: _, [] => isFalse fun e => by injection e
  | x :: a, y :: b =>
    match decEq x y, itemsDecEq a b with
    | isTrue h, isTrue i => isTrue (h ▸ i ▸ rfl)
    | isFalse h, _ => isFalse fun e => h (by injection e)
    | _, isFalse i => isFalse fun e => i (by injection e)

def membersDecEq : (a b : List (String × Json)) → Decidable (a = b)
  | [], [] => isTrue rfl
  | [], _ :: _ | _ :: _, [] => isFalse fun e => by injection e
  | (k, x) :: a, (l, y) :: b =>
    if hk : k = l then
      match decEq x y, membersDecEq a b with
      | isTrue h, isTrue i => isTrue (hk ▸ h ▸ i ▸ rfl)
      | isFalse h, _ => isFalse fun e => h (by injection e with e _; injection e)
      | _, isFalse i => isFalse fun e => i (by injection e)
    else isFalse fun e => hk (by injection e with e _; injection e)

end

instance : DecidableEq Json := decEq

def whole (n : Int) : Json :=
  .number (.whole n)

def member? (key : String) : Json → Option Json
  | .object members => Entries.get? key members
  | _ => none

def memberIfSome (key : String) : Option Json → List (String × Json)
  | some value => [(key, value)]
  | none => []

def text? : Json → Option String
  | .string s => some s
  | _ => none

def isNull : Json → Bool
  | .null => true
  | _ => false

mutual

def normal : Json → Json
  | .array items => .array (normalItems items)
  | .object members => .object (Entries.ofList (normalMembers members))
  | value => value

def normalItems : List Json → List Json
  | [] => []
  | item :: rest => normal item :: normalItems rest

def normalMembers : List (String × Json) → List (String × Json)
  | [] => []
  | (key, value) :: rest => (key, normal value) :: normalMembers rest

end

inductive Outline
  | null
  | text (codes : List Nat)
  | object (members : List (List Nat × Outline))
  | other
deriving Repr, Inhabited

def Outline.isNull : Outline → Bool
  | .null => true
  | _ => false

def textCodes (s : String) : List Nat :=
  s.toList.map Char.toNat

mutual

def outline : Json → Outline
  | .null => .null
  | .string s => .text (textCodes s)
  | .object members => .object (outlineMembers members)
  | _ => .other

def outlineMembers : List (String × Json) → List (List Nat × Outline)
  | [] => []
  | (key, value) :: rest => (textCodes key, outline value) :: outlineMembers rest

end

end Json

end ContentHub
