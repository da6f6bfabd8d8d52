import ContentHub.Entries
import ContentHub.Text.Basic

namespace ContentHub.Query

inductive Order
  | newest
  | oldest
deriving DecidableEq, Repr

inductive Interval
  | day
  | week
  | month
deriving DecidableEq, Repr, Inhabited

inductive Period
  | week
  | month
  | quarter
  | year
deriving DecidableEq, Repr

namespace Order

def names : Entries Order :=
  [("new", .newest), ("old", .oldest)]

def name : Order → String
  | .newest => "new"
  | .oldest => "old"

def named? (value : String) : Option Order :=
  (names.find? fun entry => Text.sameLetters value entry.1).map Prod.snd

end Order

namespace Interval

def names : Entries Interval :=
  [("day", .day), ("1w", .week), ("month", .month)]

def name : Interval → String
  | .day => "day"
  | .week => "1w"
  | .month => "month"

def named? (value : String) : Option Interval :=
  ((("week", .week) :: names).find? fun entry =>
    Text.sameLetters (Text.trim value) entry.1).map Prod.snd

end Interval

namespace Period

def name : Period → String
  | .week => "week"
  | .month => "month"
  | .quarter => "quarter"
  | .year => "year"

def named? (value : String) : Option Period :=
  [Period.week, .month, .quarter, .year].find? fun period =>
    Text.sameLetters (Text.trim value) period.name

end Period

structure Filters where
  start : Option UInt32 := none
  count : Option UInt32 := none
  authors : List String := []
  projects : List String := []
  mailLists : List String := []
  earliest : Option String := none
  latest : Option String := none
  past : Option String := none
deriving DecidableEq, Repr, Inhabited

def Filters.period? (filters : Filters) : Option Period :=
  filters.past.bind Period.named?

structure Defaulted where
  interval : Bool := false
  count : Bool := false
deriving DecidableEq, Repr, Inhabited

structure Settings where
  contentType : Option String := none
  text : Option String := none
  order : Option Order := none
  interval : Interval := .month
  countOnly : Option Bool := none
  filters : Option Filters := none
  defaulted : Defaulted := {}
deriving DecidableEq, Repr, Inhabited

end ContentHub.Query
