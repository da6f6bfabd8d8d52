import ContentHub.Proofs.Json.Record
import ContentHub.Query.Document
import Mathlib.Tactic

namespace ContentHub.Query

open Shape Keyed Listed
open Json (memberIfSome present get?_present Tidy)

variable {α : Type}

lemma optionalText_reads : Reads optionalText none (Optionally fun value s => value = .string s) :=
  reads_optionally text_eq_ok

lemma optionalWord_reads : Reads optionalWord none (Optionally fun value n => value = word n) :=
  reads_optionally word_eq_ok

lemma texts_reads :
    Reads texts [] (GivenOr [] fun value xs => value = .array (xs.map .string)) :=
  reads_givenOr (list_eq_ok_map text_eq_ok) []

lemma optionalFlag_reads : Reads (optional flag) none (Optionally fun value b => value = .bool b) :=
  reads_optionally flag_eq_ok

namespace Filters

def fields : List String :=
  ["start", "count", "author", "project", "mailList", "from", "to", "past"]

structure Told (find : String → Option Json) (filters : Filters) : Prop where
  start : Optionally (fun value n => value = word n) (find "start") filters.start
  count : Optionally (fun value n => value = word n) (find "count") filters.count
  authors : GivenOr [] (fun value xs => value = .array (xs.map .string)) (find "author")
    filters.authors
  projects : GivenOr [] (fun value xs => value = .array (xs.map .string)) (find "project")
    filters.projects
  mailLists : GivenOr [] (fun value xs => value = .array (xs.map .string)) (find "mailList")
    filters.mailLists
  earliest : Optionally (fun value s => value = .string s) (find "from") filters.earliest
  latest : Optionally (fun value s => value = .string s) (find "to") filters.latest
  past : Optionally (fun value s => value = .string s) (find "past") filters.past

lemma keyed_eq_ok (find : String → Option Json) (filters : Filters) :
    record.keyed find = .ok filters ↔ Told find filters := by
  simp only [record, Keyed.bind_eq_ok, Keyed.pure_eq_ok]
  constructor
  -- the reader goes through the fields in the order of their names, not as they are declared
  · rintro ⟨authors, hauthors, count, hcount, earliest, hearliest, lists, hlists, past, hpast,
      projects, hprojects, start, hstart, latest, hlatest, rfl⟩
    exact ⟨(field?_join_iff optionalWord_reads _ _ _).mp ⟨start, hstart, rfl⟩,
      (field?_join_iff optionalWord_reads _ _ _).mp ⟨count, hcount, rfl⟩,
      (field?_getD_iff texts_reads _ _ _).mp ⟨authors, hauthors, rfl⟩,
      (field?_getD_iff texts_reads _ _ _).mp ⟨projects, hprojects, rfl⟩,
      (field?_getD_iff texts_reads _ _ _).mp ⟨lists, hlists, rfl⟩,
      (field?_join_iff optionalText_reads _ _ _).mp ⟨earliest, hearliest, rfl⟩,
      (field?_join_iff optionalText_reads _ _ _).mp ⟨latest, hlatest, rfl⟩,
      (field?_join_iff optionalText_reads _ _ _).mp ⟨past, hpast, rfl⟩⟩
  · intro h
    obtain ⟨_, _, _, _, _, _, _, _⟩ := filters
    obtain ⟨start, hstart, rfl⟩ := (field?_join_iff optionalWord_reads _ _ _).mpr h.start
    obtain ⟨count, hcount, rfl⟩ := (field?_join_iff optionalWord_reads _ _ _).mpr h.count
    obtain ⟨authors, hauthors, rfl⟩ := (field?_getD_iff texts_reads _ _ _).mpr h.authors
    obtain ⟨projects, hprojects, rfl⟩ := (field?_getD_iff texts_reads _ _ _).mpr h.projects
    obtain ⟨lists, hlists, rfl⟩ := (field?_getD_iff texts_reads _ _ _).mpr h.mailLists
    obtain ⟨earliest, hearliest, rfl⟩ := (field?_join_iff optionalText_reads _ _ _).mpr h.earliest
    obtain ⟨latest, hlatest, rfl⟩ := (field?_join_iff optionalText_reads _ _ _).mpr h.latest
    obtain ⟨past, hpast, rfl⟩ := (field?_join_iff optionalText_reads _ _ _).mpr h.past
    exact ⟨authors, hauthors, count, hcount, earliest, hearliest, lists, hlists, past, hpast,
      projects, hprojects, start, hstart, latest, hlatest, rfl⟩

lemma nodup_fields : fields.Nodup := by
  decide

lemma listed_eq_ok (items : List Json) (filters : Filters) :
    record.listed items = .ok (filters, []) ↔ items.length ≤ fields.length ∧
      Told (fun key => Entries.get? key (fields.zip items)) filters := by
  -- every field is read from what is left behind the earlier ones
  have hall : record.listed items = record.listed (items.drop 0) := by rw [List.drop_zero]
  have hlength : items.length ≤ fields.length ↔ items.drop 8 = [] := List.drop_eq_nil_iff.symm
  rw [hall, hlength]
  simp only [record, next_bind_eq_ok optionalWord_reads nodup_fields 0 "start" rfl,
    next_bind_eq_ok optionalWord_reads nodup_fields 1 "count" rfl,
    next_bind_eq_ok texts_reads nodup_fields 2 "author" rfl,
    next_bind_eq_ok texts_reads nodup_fields 3 "project" rfl,
    next_bind_eq_ok texts_reads nodup_fields 4 "mailList" rfl,
    next_bind_eq_ok optionalText_reads nodup_fields 5 "from" rfl,
    next_bind_eq_ok optionalText_reads nodup_fields 6 "to" rfl,
    next_bind_eq_ok optionalText_reads nodup_fields 7 "past" rfl, Listed.pure_eq_ok]
  constructor
  · rintro ⟨start, hstart, count, hcount, authors, hauthors, projects, hprojects, lists, hlists,
      earliest, hearliest, latest, hlatest, past, hpast, hresult⟩
    obtain ⟨rfl, hnil⟩ := Prod.mk.inj hresult
    exact ⟨hnil.symm, hstart, hcount, hauthors, hprojects, hlists, hearliest, hlatest, hpast⟩
  · rintro ⟨hnil, h⟩
    exact ⟨_, h.start, _, h.count, _, h.authors, _, h.projects, _, h.mailLists, _, h.earliest, _,
      h.latest, _, h.past, by rw [hnil]⟩

def Written : Json → Filters → Prop :=
  Record.Written fields Told

lemma read_eq_ok (value : Json) (filters : Filters) :
    record.read value = .ok filters ↔ Written value filters :=
  Record.read_eq_ok_iff_written keyed_eq_ok listed_eq_ok value filters

end Filters

namespace Defaulted

def fields : List String :=
  ["interval", "count"]

structure Told (find : String → Option Json) (defaulted : Defaulted) : Prop where
  interval : find "interval" = some (.bool defaulted.interval)
  count : find "count" = some (.bool defaulted.count)

lemma keyed_eq_ok (find : String → Option Json) (defaulted : Defaulted) :
    record.keyed find = .ok defaulted ↔ Told find defaulted := by
  simp only [record, Keyed.bind_eq_ok, Keyed.required_eq_ok, Keyed.pure_eq_ok]
  constructor
  · rintro ⟨_, hcount, _, hinterval, interval, rfl, count, rfl, rfl⟩
    obtain ⟨_, hcount, hflag⟩ := (Keyed.field?_eq_some _ _ _ _).mp hcount
    obtain ⟨_, hinterval, hflag'⟩ := (Keyed.field?_eq_some _ _ _ _).mp hinterval
    exact ⟨(flag_eq_ok _ _).mp hflag' ▸ hinterval, (flag_eq_ok _ _).mp hflag ▸ hcount⟩
  · rintro ⟨hinterval, hcount⟩
    exact ⟨_, (Keyed.field?_eq_some _ _ _ _).mpr ⟨_, hcount, rfl⟩, _,
      (Keyed.field?_eq_some _ _ _ _).mpr ⟨_, hinterval, rfl⟩, _, rfl, _, rfl, rfl⟩

lemma listed_eq_ok (items : List Json) (defaulted : Defaulted) :
    record.listed items = .ok (defaulted, []) ↔ items.length ≤ fields.length ∧
      Told (fun key => Entries.get? key (fields.zip items)) defaulted := by
  simp only [record, Listed.bind_eq_ok, Listed.next_eq_ok, Listed.pure_eq_ok, flag_eq_ok]
  constructor
  · rintro ⟨interval, _, ⟨_, rfl, rfl⟩, count, _, ⟨_, rfl, rfl⟩, hresult⟩
    obtain ⟨rfl, rfl⟩ := Prod.mk.inj hresult
    exact ⟨le_refl 2, rfl, rfl⟩
  · rintro ⟨hlength, hinterval, hcount⟩
    obtain _ | ⟨first, _ | ⟨second, _ | ⟨third, rest⟩⟩⟩ := items
    · cases hinterval
    · cases hcount
    · obtain rfl := Option.some.inj hinterval
      obtain rfl := Option.some.inj hcount
      exact ⟨_, _, ⟨_, rfl, rfl⟩, _, _, ⟨_, rfl, rfl⟩, rfl⟩
    · simp [fields] at hlength

def Written : Json → Defaulted → Prop :=
  Record.Written fields Told

lemma read_eq_ok (value : Json) (defaulted : Defaulted) :
    record.read value = .ok defaulted ↔ Written value defaulted :=
  Record.read_eq_ok_iff_written keyed_eq_ok listed_eq_ok value defaulted

end Defaulted

lemma Order.variant_eq_ok (value : Json) (order : Order) :
    variant names value = .ok order ↔ NamedBy name value order := by
  apply Shape.variant_eq_ok
  · decide
  · rintro (_ | _) <;> rfl

lemma Interval.variant_eq_ok (value : Json) (interval : Interval) :
    variant names value = .ok interval ↔ NamedBy name value interval := by
  apply Shape.variant_eq_ok
  · decide
  · rintro (_ | _ | _) <;> rfl

namespace Settings

def fields : List String :=
  ["contentType", "query", "sortBy", "interval", "count", "filters", "defaults"]

structure Told (find : String → Option Json) (settings : Settings) : Prop where
  contentType : Optionally (fun value s => value = .string s) (find "contentType")
    settings.contentType
  text : Optionally (fun value s => value = .string s) (find "query") settings.text
  order : Optionally (NamedBy Order.name) (find "sortBy") settings.order
  interval : GivenOr .month (NamedBy Interval.name) (find "interval") settings.interval
  countOnly : Optionally (fun value b => value = .bool b) (find "count") settings.countOnly
  filters : Optionally Filters.Written (find "filters") settings.filters
  defaulted : GivenOr {} Defaulted.Written (find "defaults") settings.defaulted

lemma order_reads : Reads (optional (variant Order.names)) none (Optionally (NamedBy Order.name)) :=
  reads_optionally Order.variant_eq_ok

lemma interval_reads :
    Reads (variant Interval.names) .month (GivenOr .month (NamedBy Interval.name)) :=
  reads_givenOr Interval.variant_eq_ok .month

lemma filters_reads :
    Reads (optional Filters.record.read) none (Optionally Filters.Written) :=
  reads_optionally Filters.read_eq_ok

lemma defaulted_reads : Reads Defaulted.record.read {} (GivenOr {} Defaulted.Written) :=
  reads_givenOr Defaulted.read_eq_ok {}

lemma keyed_eq_ok (find : String → Option Json) (settings : Settings) :
    record.keyed find = .ok settings ↔ Told find settings := by
  simp only [record, Keyed.bind_eq_ok, Keyed.pure_eq_ok]
  constructor
  · rintro ⟨contentType, hcontentType, countOnly, hcountOnly, defaulted, hdefaulted, filters,
      hfilters, interval, hinterval, text, htext, order, horder, rfl⟩
    exact ⟨(field?_join_iff optionalText_reads _ _ _).mp ⟨contentType, hcontentType, rfl⟩,
      (field?_join_iff optionalText_reads _ _ _).mp ⟨text, htext, rfl⟩,
      (field?_join_iff order_reads _ _ _).mp ⟨order, horder, rfl⟩,
      (field?_getD_iff interval_reads _ _ _).mp ⟨interval, hinterval, rfl⟩,
      (field?_join_iff optionalFlag_reads _ _ _).mp ⟨countOnly, hcountOnly, rfl⟩,
      (field?_join_iff filters_reads _ _ _).mp ⟨filters, hfilters, rfl⟩,
      (field?_getD_iff defaulted_reads _ _ _).mp ⟨defaulted, hdefaulted, rfl⟩⟩
  · intro h
    obtain ⟨_, _, _, _, _, _, _⟩ := settings
    obtain ⟨contentType, hcontentType, rfl⟩ :=
      (field?_join_iff optionalText_reads _ _ _).mpr h.contentType
    obtain ⟨text, htext, rfl⟩ := (field?_join_iff optionalText_reads _ _ _).mpr h.text
    obtain ⟨order, horder, rfl⟩ := (field?_join_iff order_reads _ _ _).mpr h.order
    obtain ⟨interval, hinterval, rfl⟩ := (field?_getD_iff interval_reads _ _ _).mpr h.interval
    obtain ⟨countOnly, hcountOnly, rfl⟩ :=
      (field?_join_iff optionalFlag_reads _ _ _).mpr h.countOnly
    obtain ⟨filters, hfilters, rfl⟩ := (field?_join_iff filters_reads _ _ _).mpr h.filters
    obtain ⟨defaulted, hdefaulted, rfl⟩ := (field?_getD_iff defaulted_reads _ _ _).mpr h.defaulted
    exact ⟨contentType, hcontentType, countOnly, hcountOnly, defaulted, hdefaulted, filters,
      hfilters, interval, hinterval, text, htext, order, horder, rfl⟩

lemma nodup_fields : fields.Nodup := by
  decide

lemma listed_eq_ok (items : List Json) (settings : Settings) :
    record.listed items = .ok (settings, []) ↔ items.length ≤ fields.length ∧
      Told (fun key => Entries.get? key (fields.zip items)) settings := by
  have hall : record.listed items = record.listed (items.drop 0) := by rw [List.drop_zero]
  have hlength : items.length ≤ fields.length ↔ items.drop 7 = [] := List.drop_eq_nil_iff.symm
  rw [hall, hlength]
  simp only [record, next_bind_eq_ok optionalText_reads nodup_fields 0 "contentType" rfl,
    next_bind_eq_ok optionalText_reads nodup_fields 1 "query" rfl,
    next_bind_eq_ok order_reads nodup_fields 2 "sortBy" rfl,
    next_bind_eq_ok interval_reads nodup_fields 3 "interval" rfl,
    next_bind_eq_ok optionalFlag_reads nodup_fields 4 "count" rfl,
    next_bind_eq_ok filters_reads nodup_fields 5 "filters" rfl,
    next_bind_eq_ok defaulted_reads nodup_fields 6 "defaults" rfl, Listed.pure_eq_ok]
  constructor
  · rintro ⟨contentType, hcontentType, text, htext, order, horder, interval, hinterval, countOnly,
      hcountOnly, filters, hfilters, defaulted, hdefaulted, hresult⟩
    obtain ⟨rfl, hnil⟩ := Prod.mk.inj hresult
    exact ⟨hnil.symm, hcontentType, htext, horder, hinterval, hcountOnly, hfilters, hdefaulted⟩
  · rintro ⟨hnil, h⟩
    exact ⟨_, h.contentType, _, h.text, _, h.order, _, h.interval, _, h.countOnly, _, h.filters, _,
      h.defaulted, by rw [hnil]⟩

def Written : Json → Settings → Prop :=
  Record.Written fields Told

lemma ofJson_eq_ok (value : Json) (settings : Settings) :
    ofJson value = .ok settings ↔ Written value settings :=
  Record.read_eq_ok_iff_written keyed_eq_ok listed_eq_ok value settings

end Settings

lemma optionally_map_eq (write : α → Json) (hnull : ∀ y, write y ≠ .null) (x : Option α) :
    Optionally (fun value y => value = write y) (x.map write) x :=
  stands_map _ write hnull (fun _ => rfl) x

lemma orderless_optionally_eq (write : α → Json) (hwrite : ∀ y, (write y).normal = write y) :
    Orderless (Optionally fun value y => value = write y) := by
  apply orderless_optionally
  rintro _ y - rfl
  exact hwrite y

lemma orderless_texts : Orderless (GivenOr [] fun value xs => value = .array (xs.map .string)) := by
  apply orderless_givenOr
  rintro _ xs - rfl
  rw [Json.normal, Json.normalItems_eq_map, List.map_map]
  rfl

def ifAny (values : List String) : Option Json :=
  if values.isEmpty then none else some (.array (values.map .string))

lemma listMember_eq (key : String) (values : List String) :
    listMember key values = memberIfSome key (ifAny values) := by
  cases values <;> rfl

lemma givenOr_ifAny (values : List String) :
    GivenOr [] (fun value xs => value = .array (xs.map .string)) (ifAny values) values := by
  cases values <;> rfl

namespace Filters

def parts (filters : Filters) : List (String × Option Json) :=
  [("start", filters.start.map word), ("count", filters.count.map word),
    ("author", ifAny filters.authors), ("project", ifAny filters.projects),
    ("mailList", ifAny filters.mailLists), ("from", filters.earliest.map .string),
    ("to", filters.latest.map .string), ("past", filters.past.map .string)]

lemma toJson_eq (filters : Filters) : filters.toJson = .object (present filters.parts) := by
  simp [toJson, present, parts, listMember_eq]

lemma nodup_parts (filters : Filters) : (Entries.keys filters.parts).Nodup :=
  nodup_fields

lemma told_toJson (filters : Filters) :
    Told (fun key => Entries.get? key (present filters.parts)) filters := by
  simp only [get?_present filters.nodup_parts]
  constructor
  · exact optionally_map_eq word nofun filters.start
  · exact optionally_map_eq word nofun filters.count
  · exact givenOr_ifAny filters.authors
  · exact givenOr_ifAny filters.projects
  · exact givenOr_ifAny filters.mailLists
  · exact optionally_map_eq .string nofun filters.earliest
  · exact optionally_map_eq .string nofun filters.latest
  · exact optionally_map_eq .string nofun filters.past

lemma written_toJson (filters : Filters) : Written filters.toJson filters :=
  filters.toJson_eq ▸ .keyed filters.told_toJson

lemma Told.normal (find : String → Option Json) (filters : Filters)
    (hfind : ∀ key, ∀ value ∈ find key, value.Distinct) (h : Told find filters) :
    Told (fun key => (find key).map Json.normal) filters where
  start := orderless_optionally_eq word (fun _ => rfl) _ _ (hfind _) h.start
  count := orderless_optionally_eq word (fun _ => rfl) _ _ (hfind _) h.count
  authors := orderless_texts _ _ (hfind _) h.authors
  projects := orderless_texts _ _ (hfind _) h.projects
  mailLists := orderless_texts _ _ (hfind _) h.mailLists
  earliest := orderless_optionally_eq .string (fun _ => rfl) _ _ (hfind _) h.earliest
  latest := orderless_optionally_eq .string (fun _ => rfl) _ _ (hfind _) h.latest
  past := orderless_optionally_eq .string (fun _ => rfl) _ _ (hfind _) h.past

end Filters

namespace Defaulted

lemma nodup_fields : fields.Nodup := by
  decide

lemma written_toJson (defaulted : Defaulted) : Written defaulted.toJson defaulted :=
  .keyed ⟨rfl, rfl⟩

lemma Told.normal (find : String → Option Json) (defaulted : Defaulted)
    (_ : ∀ key, ∀ value ∈ find key, value.Distinct) (h : Told find defaulted) :
    Told (fun key => (find key).map Json.normal) defaulted where
  interval := by rw [h.interval]; rfl
  count := by rw [h.count]; rfl

end Defaulted

namespace Settings

def parts (settings : Settings) : List (String × Option Json) :=
  [("contentType", settings.contentType.map .string), ("query", settings.text.map .string),
    ("sortBy", settings.order.map Order.toJson), ("interval", some settings.interval.toJson),
    ("count", settings.countOnly.map .bool), ("filters", settings.filters.map Filters.toJson),
    ("defaults", some settings.defaulted.toJson)]

lemma toJson_eq (settings : Settings) : settings.toJson = .object (present settings.parts) := by
  simp [toJson, present, parts, memberIfSome]

lemma nodup_parts (settings : Settings) : (Entries.keys settings.parts).Nodup :=
  nodup_fields

lemma told_toJson (settings : Settings) :
    Told (fun key => Entries.get? key (present settings.parts)) settings := by
  simp only [get?_present settings.nodup_parts]
  constructor
  · exact optionally_map_eq .string nofun settings.contentType
  · exact optionally_map_eq .string nofun settings.text
  · exact stands_map _ Order.toJson nofun (fun _ => Or.inl rfl) settings.order
  · exact Or.inl rfl
  · exact optionally_map_eq .bool nofun settings.countOnly
  · exact stands_map _ Filters.toJson nofun Filters.written_toJson settings.filters
  · exact Defaulted.written_toJson settings.defaulted

lemma written_toJson (settings : Settings) : Written settings.toJson settings :=
  settings.toJson_eq ▸ .keyed settings.told_toJson

lemma Told.normal (find : String → Option Json) (settings : Settings)
    (hfind : ∀ key, ∀ value ∈ find key, value.Distinct) (h : Told find settings) :
    Told (fun key => (find key).map Json.normal) settings where
  contentType := orderless_optionally_eq .string (fun _ => rfl) _ _ (hfind _) h.contentType
  text := orderless_optionally_eq .string (fun _ => rfl) _ _ (hfind _) h.text
  order := orderless_optionally NamedBy.normal _ _ (hfind _) h.order
  interval := orderless_givenOr NamedBy.normal _ _ _ (hfind _) h.interval
  countOnly := orderless_optionally_eq .bool (fun _ => rfl) _ _ (hfind _) h.countOnly
  filters :=
    orderless_optionally (Record.Written.normal Filters.Told.normal) _ _ (hfind _) h.filters
  defaulted :=
    orderless_givenOr (Record.Written.normal Defaulted.Told.normal) _ _ _ (hfind _) h.defaulted

lemma Written.normal {value : Json} {settings : Settings} (hvalue : value.Distinct)
    (h : Written value settings) : Written value.normal settings :=
  Record.Written.normal Told.normal value settings hvalue h

end Settings

section Tidy

variable {room : ℕ}

lemma tidy_word (n : UInt32) : Tidy room (word n) := by
  have hn := n.toNat_lt_size
  have hlegible : -0x8000000000000000 ≤ (n.toNat : ℤ) ∧ (n.toNat : ℤ) < UInt64.size := by
    simp only [UInt32.size, UInt64.size] at hn ⊢
    omega
  exact .number hlegible

lemma tidy_map (write : α → Json) (hwrite : ∀ y, Tidy room (write y)) (x : Option α) :
    ∀ value ∈ x.map write, Tidy room value := by
  rintro _ h
  obtain ⟨y, -, rfl⟩ := Option.map_eq_some_iff.mp h
  exact hwrite y

lemma tidy_ifAny (values : List String) : ∀ value ∈ ifAny values, Tidy (room + 1) value := by
  intro value h
  rw [ifAny] at h
  split at h
  · cases h
  · obtain rfl := Option.some.inj h
    apply Tidy.array
    rintro _ hitem
    obtain ⟨s, -, rfl⟩ := List.mem_map.mp hitem
    exact .string s

lemma Filters.tidy_toJson (filters : Filters) : Tidy (room + 2) filters.toJson := by
  rw [toJson_eq]
  apply Tidy.present filters.nodup_parts
  simp only [parts, List.forall_mem_cons]
  exact ⟨tidy_map word tidy_word _, tidy_map word tidy_word _, tidy_ifAny _, tidy_ifAny _,
    tidy_ifAny _, tidy_map .string .string _, tidy_map .string .string _,
    tidy_map .string .string _, nofun⟩

lemma Defaulted.tidy_toJson (defaulted : Defaulted) : Tidy (room + 1) defaulted.toJson := by
  apply Tidy.object
  · exact nodup_fields
  · simp only [List.forall_mem_cons]
    exact ⟨.bool _, .bool _, nofun⟩

lemma Settings.tidy_toJson (settings : Settings) : Tidy (room + 3) settings.toJson := by
  rw [toJson_eq]
  apply Tidy.present settings.nodup_parts
  simp only [parts, List.forall_mem_cons]
  exact ⟨tidy_map .string .string _, tidy_map .string .string _,
    tidy_map Order.toJson (fun _ => .string _) _, fun _ h => Option.some.inj h ▸ .string _,
    tidy_map .bool .bool _, tidy_map Filters.toJson Filters.tidy_toJson _,
    fun _ h => Option.some.inj h ▸ Defaulted.tidy_toJson _, nofun⟩

end Tidy

lemma ofJson_toJson (settings : Settings) : Settings.ofJson settings.toJson = .ok settings :=
  (Settings.ofJson_eq_ok _ _).mpr settings.written_toJson

lemma toJson_injective : Function.Injective Settings.toJson := by
  intro settings other h
  apply Except.ok.inj
  rw [← ofJson_toJson settings, h, ofJson_toJson other]

lemma ofJson_parse? (settings : Settings) {text : String}
    (h : Json.parse? text = some settings.toJson.normal) :
    (Json.parse? text).map Settings.ofJson = some (.ok settings) := by
  have htidy : Tidy Json.maxDepth settings.toJson := settings.tidy_toJson
  have hnormal := settings.written_toJson.normal htidy.distinct
  rw [h, Option.map_some, (Settings.ofJson_eq_ok _ _).mpr hnormal]

/-- Settings come back from their JSON form, as a value and as a text on one line or on many. It is
one of several forms in which settings may be written, and all of them come back as it; it has no
null in it and shows whether there are filters. -/
theorem settings_roundTrip (settings : Settings) :
    Settings.ofJson settings.toJson = .ok settings ∧
      (Json.parse? settings.toJson.print).map Settings.ofJson = some (.ok settings) ∧
      (Json.parse? settings.toJson.pretty).map Settings.ofJson = some (.ok settings) ∧
      (∀ value, Settings.ofJson value = .ok settings ↔ Settings.Written value settings) ∧
      (∀ value read, Settings.ofJson value = .ok read → Settings.ofJson read.toJson = .ok read) ∧
      { settings with filters := some {} }.toJson ≠ { settings with filters := none }.toJson ∧
      ¬settings.toJson.Contains .null := by
  have htidy : Tidy Json.maxDepth settings.toJson := settings.tidy_toJson
  obtain ⟨hprint, hpretty⟩ := htidy.parse?_eq
  refine ⟨ofJson_toJson settings, ofJson_parse? settings hprint, ofJson_parse? settings hpretty,
    fun value => Settings.ofJson_eq_ok value settings,
    fun _ read _ => ofJson_toJson read, ?_, htidy.not_contains_null⟩
  apply toJson_injective.ne
  simp

def listedValue : Json :=
  .array [.null, .string "a*", .object [("old", .null)], .string "1w", .bool true,
    .array [.whole 5, .null, .array [.string "x"]], .array [.bool false, .bool true]]

def listedSettings : Settings where
  text := some "a*"
  order := some .oldest
  interval := .week
  countOnly := some true
  filters := some { start := some 5, authors := ["x"] }
  defaulted := { count := true }

theorem settings_roundTrip_sample :
    Settings.ofJson listedValue = .ok listedSettings ∧
      Settings.ofJson listedSettings.toJson = .ok listedSettings := by
  have hread : Settings.ofJson listedValue = .ok listedSettings := by decide
  obtain ⟨-, -, -, -, hagain, -⟩ := settings_roundTrip listedSettings
  exact ⟨hread, hagain listedValue listedSettings hread⟩

end ContentHub.Query
