import ContentHub.Json.Shape
import ContentHub.Query.Basic

/-!
The JSON form of search settings. Fields without a value are left out, so a written form holds no
null; the two flags that tell which fields were filled by default are always there.
-/

namespace ContentHub.Query

open Json (memberIfSome)

def listMember (key : String) (values : List String) : List (String × Json) :=
  if values.isEmpty then [] else [(key, .array (values.map .string))]

def word (n : UInt32) : Json :=
  .whole n.toNat

def Order.toJson (order : Order) : Json :=
  .string order.name

def Interval.toJson (interval : Interval) : Json :=
  .string interval.name

def Filters.toJson (filters : Filters) : Json :=
  .object (memberIfSome "start" (filters.start.map word) ++
    memberIfSome "count" (filters.count.map word) ++
    listMember "author" filters.authors ++
    listMember "project" filters.projects ++
    listMember "mailList" filters.mailLists ++
    memberIfSome "from" (filters.earliest.map .string) ++
    memberIfSome "to" (filters.latest.map .string) ++
    memberIfSome "past" (filters.past.map .string))

def Defaulted.toJson (defaulted : Defaulted) : Json :=
  .object [("interval", .bool defaulted.interval), ("count", .bool defaulted.count)]

def Settings.toJson (settings : Settings) : Json :=
  .object (memberIfSome "contentType" (settings.contentType.map .string) ++
    memberIfSome "query" (settings.text.map .string) ++
    memberIfSome "sortBy" (settings.order.map Order.toJson) ++
    [("interval", settings.interval.toJson)] ++
    memberIfSome "count" (settings.countOnly.map .bool) ++
    memberIfSome "filters" (settings.filters.map Filters.toJson) ++
    [("defaults", settings.defaulted.toJson)])

open Shape Keyed Listed

def optionalText : Json → Shaped (Option String) :=
  optional text

def optionalWord : Json → Shaped (Option UInt32) :=
  optional Shape.word

def texts : Json → Shaped (List String) :=
  list text

/-- Keys are read in alphabetical order, which decides between several faults. -/
def Filters.record : Record Filters where
  title := "struct Filters"
  keyed := do
    let authors ← field? "author" texts
    let count ← field? "count" optionalWord
    let earliest ← field? "from" optionalText
    let mailLists ← field? "mailList" texts
    let past ← field? "past" optionalText
    let projects ← field? "project" texts
    let start ← field? "start" optionalWord
    let latest ← field? "to" optionalText
    return {
      start := start.join
      count := count.join
      authors := authors.getD []
      projects := projects.getD []
      mailLists := mailLists.getD []
      earliest := earliest.join
      latest := latest.join
      past := past.join }
  listed := do
    let start ← next optionalWord (.ok none)
    let count ← next optionalWord (.ok none)
    let authors ← next texts (.ok [])
    let projects ← next texts (.ok [])
    let mailLists ← next texts (.ok [])
    let earliest ← next optionalText (.ok none)
    let latest ← next optionalText (.ok none)
    let past ← next optionalText (.ok none)
    return { start, count, authors, projects, mailLists, earliest, latest, past }

def Defaulted.record : Record Defaulted where
  title := "struct DefaultedFields"
  keyed := do
    let count ← field? "count" flag
    let interval ← field? "interval" flag
    let interval ← required "interval" interval
    let count ← required "count" count
    return { interval, count }
  listed := do
    let wanted := "struct DefaultedFields with 2 elements"
    let interval ← next flag (.error (.tooFew 0 wanted))
    let count ← next flag (.error (.tooFew 1 wanted))
    return { interval, count }

def Settings.record : Record Settings where
  title := "struct QuerySettings"
  keyed := do
    let contentType ← field? "contentType" optionalText
    let countOnly ← field? "count" (optional flag)
    let defaulted ← field? "defaults" Defaulted.record.read
    let filters ← field? "filters" (optional Filters.record.read)
    let interval ← field? "interval" (variant Interval.names)
    let text ← field? "query" optionalText
    let order ← field? "sortBy" (optional (variant Order.names))
    return {
      contentType := contentType.join
      text := text.join
      order := order.join
      interval := interval.getD .month
      countOnly := countOnly.join
      filters := filters.join
      defaulted := defaulted.getD {} }
  listed := do
    let contentType ← next optionalText (.ok none)
    let text ← next optionalText (.ok none)
    let order ← next (optional (variant Order.names)) (.ok none)
    let interval ← next (variant Interval.names) (.ok .month)
    let countOnly ← next (optional flag) (.ok none)
    let filters ← next (optional Filters.record.read) (.ok none)
    let defaulted ← next Defaulted.record.read (.ok {})
    return { contentType, text, order, interval, countOnly, filters, defaulted }

def Settings.ofJson (value : Json) : Shaped Settings :=
  Settings.record.read value

end ContentHub.Query
