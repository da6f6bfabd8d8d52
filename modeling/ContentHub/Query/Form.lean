import ContentHub.Error
import ContentHub.Query.Basic

/-!
Search settings from the fields of a web form. A field may have several values, and one without any
counts as absent. Unusable values are replaced by defaults and never refused.
-/

namespace ContentHub.Query

structure Lenient (α : Type) where
  value : α
  defaulted : Bool
deriving DecidableEq

def Lenient.read {α : Type} (read : String → Option α) (default : α) (raw : Option String) :
    Lenient α :=
  match raw.bind read with
  | some value => ⟨value, false⟩
  | none => ⟨default, true⟩

def truth? (value : String) : Option Bool :=
  if Text.sameLetters value "true" then some true
  else if Text.sameLetters value "false" then some false
  else none

abbrev Form := Entries (List String)

namespace Form

def values (form : Form) (field : String) : List String :=
  (Entries.get? field form).getD []

def first? (form : Form) (field : String) : Option String :=
  (form.values field).head?

def add (form : Form) (field value : String) : Form :=
  Entries.insert field (form.values field ++ [value]) form

def ofPairs (pairs : List (String × String)) : Form :=
  pairs.foldl (fun form pair => form.add pair.1 pair.2) []

def filters (form : Form) : Filters where
  authors := form.values "filters[author][]"
  projects := form.values "filters[project][]"
  mailLists := form.values "filters[mailList][]"
  earliest := form.first? "filters[from]"
  latest := form.first? "filters[to]"
  past := form.first? "filters[past]"

def filters? (form : Form) : Option Filters :=
  if form.filters = {} then none else some form.filters

def settings (form : Form) : Settings :=
  let interval := Lenient.read Interval.named? .month (form.first? "filters[interval]")
  let count := (form.first? "count").map fun raw => Lenient.read truth? false (some raw)
  { text := some ((form.first? "query").getD "")
    interval := interval.value
    countOnly := count.map Lenient.value
    filters := form.filters?
    defaulted := {
      interval := interval.defaulted
      count := (count.map Lenient.defaulted).getD false } }

end Form

def settingsOfForm (form : Option Form) : Except Error Settings :=
  match form with
  | some form => .ok form.settings
  | none => .error (.invalidInput "no parameters found!")

end ContentHub.Query
