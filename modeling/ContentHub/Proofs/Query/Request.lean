import ContentHub.Proofs.Except
import ContentHub.Proofs.Query.Names
import ContentHub.Proofs.Text.Blank
import ContentHub.Proofs.Text.Natural
import ContentHub.Query.Request
import ContentHub.Query.Wildcard
import Mathlib.Tactic

namespace ContentHub.Query

inductive Unusable : (parameter raw : String) → Prop
  | start {raw : String} (h : ∀ n : UInt32, ¬Text.Denotes raw.toList n.toNat) :
      Unusable "start" raw
  | count {raw : String} (h : ∀ n : UInt32, ¬Text.Denotes raw.toList n.toNat) :
      Unusable "count" raw
  | order {raw : String} (hnew : Text.lower raw ≠ "new") (hold : Text.lower raw ≠ "old") :
      Unusable "sortBy" raw

namespace Request

def DenotesWord (raw : String) (n : UInt32) : Prop :=
  Text.Denotes raw.toList n.toNat

lemma unusable_word_iff {parameter : String} (hword : parameter = "start" ∨ parameter = "count")
    (raw : String) : Unusable parameter raw ↔ ∀ n, ¬DenotesWord raw n := by
  constructor
  · rintro (h | h | ⟨-, -⟩)
    · exact h
    · exact h
    · exact absurd hword (by decide)
  · intro h
    rcases hword with rfl | rfl
    · exact .start h
    · exact .count h

lemma unusable_order_iff (raw : String) :
    Unusable "sortBy" raw ↔ ∀ order, ¬Order.Names raw order := by
  constructor
  · generalize hname : "sortBy" = parameter
    rintro (h | h | ⟨hnew, hold⟩) order horder
    · exact absurd hname (by decide)
    · exact absurd hname (by decide)
    · unfold Order.Names at horder
      generalize Text.lower raw = name at hnew hold horder
      cases horder with
      | newest => exact hnew rfl
      | oldest => exact hold rfl
  · intro h
    refine .order (fun hnew => h .newest ?_) (fun hold => h .oldest ?_)
    · rw [Order.Names, hnew]
      exact .newest
    · rw [Order.Names, hold]
      exact .oldest

structure Asks (request : Request) (settings : Settings) : Prop where
  contentType : ∀ text, settings.contentType = some text ↔ ∃ raw ∈ Entries.get? "type" request,
    ¬(∀ c ∈ raw.toList, Text.isBlank c = true) ∧ text = Text.trim raw
  filters : ∃ start count, settings.filters = some { start, count } ∧
    Option.Rel DenotesWord (Entries.get? "start" request) start ∧
    Option.Rel DenotesWord (Entries.get? "count" request) count
  order : Option.Rel Order.Names (Entries.get? "sortBy" request) settings.order
  text : settings.text = none
  countOnly : settings.countOnly = none
  interval : settings.interval = .month
  defaulted : settings.defaulted = { interval := true, count := false }

def checked : List String :=
  ["start", "count", "sortBy"]

def Usable (request : Request) (parameter : String) : Prop :=
  ∀ raw ∈ Entries.get? parameter request, ¬Unusable parameter raw

structure FirstUnusable (request : Request) (parameter : String) : Prop where
  unusable : ∃ raw ∈ Entries.get? parameter request, Unusable parameter raw
  first : ∃ before after, checked = before ++ parameter :: after ∧
    ∀ earlier ∈ before, request.Usable earlier

variable {request : Request} {e : Error}

lemma word?_eq_ok (parameter : String) (x : Option UInt32) :
    request.word? parameter = .ok x ↔
      Option.Rel DenotesWord (Entries.get? parameter request) x := by
  simp only [word?]
  cases Entries.get? parameter request with
  | none => cases x <;> simp
  | some raw =>
    cases hread : Text.readWord raw with
    | ok n => cases x <;> simp [DenotesWord, ← Text.readWord_eq_ok, hread]
    | error fault => cases x <;> simp [DenotesWord, ← Text.readWord_eq_ok, hread]

lemma order?_eq_ok (x : Option Order) :
    request.order? = .ok x ↔ Option.Rel Order.Names (Entries.get? "sortBy" request) x := by
  simp only [order?]
  cases Entries.get? "sortBy" request with
  | none => cases x <;> simp
  | some raw =>
    cases hnamed : Order.named? raw with
    | some order => cases x <;> simp [← Order.named?_eq_some, hnamed]
    | none => cases x <;> simp [← Order.named?_eq_some, hnamed]

lemma word?_error {parameter : String} (h : request.word? parameter = .error e) :
    ∃ raw ∈ Entries.get? parameter request, (∀ n, ¬DenotesWord raw n) ∧
      ∃ description, e = .badParameter parameter (some description) := by
  simp only [word?] at h
  split at h
  · cases h
  · next raw hraw =>
    split at h
    · cases h
    · next fault hfault =>
      refine ⟨raw, hraw, fun n hn => ?_, fault.message, (Except.error.inj h).symm⟩
      cases hfault.symm.trans ((Text.readWord_eq_ok raw n).mpr hn)

lemma order?_error (h : request.order? = .error e) :
    ∃ raw ∈ Entries.get? "sortBy" request, (∀ order, ¬Order.Names raw order) ∧
      ∃ description, e = .badParameter "sortBy" (some description) := by
  simp only [order?] at h
  split at h
  · cases h
  · next raw hraw =>
    split at h
    · cases h
    · next hnone =>
      refine ⟨raw, hraw, fun order horder => ?_, _, (Except.error.inj h).symm⟩
      cases hnone.symm.trans ((Order.named?_eq_some raw order).mpr horder)

lemma usable_of_rel {α : Type} {good : String → α → Prop} {parameter : String}
    (hgood : ∀ raw, Unusable parameter raw ↔ ∀ x, ¬good raw x) {x : Option α}
    (h : Option.Rel good (Entries.get? parameter request) x) : request.Usable parameter := by
  intro raw hraw hunusable
  rw [Option.mem_def.mp hraw] at h
  cases h with
  | some h => exact (hgood raw).mp hunusable _ h

lemma usable_start {n : Option UInt32}
    (h : Option.Rel DenotesWord (Entries.get? "start" request) n) : request.Usable "start" :=
  usable_of_rel (unusable_word_iff (Or.inl rfl)) h

lemma usable_count {n : Option UInt32}
    (h : Option.Rel DenotesWord (Entries.get? "count" request) n) : request.Usable "count" :=
  usable_of_rel (unusable_word_iff (Or.inr rfl)) h

lemma settings_eq_ok (settings : Settings) :
    request.settings = .ok settings ↔ request.Asks settings := by
  simp only [Request.settings, bind_eq_ok, word?_eq_ok, order?_eq_ok]
  constructor
  · rintro ⟨start, hstart, count, hcount, order, horder, hpure⟩
    obtain rfl := Except.ok.inj hpure
    exact ⟨Text.content?_eq_some _, ⟨start, count, rfl, hstart, hcount⟩, horder, rfl, rfl, rfl, rfl⟩
  · intro h
    obtain ⟨start, count, hfilters, hstart, hcount⟩ := h.filters
    refine ⟨start, hstart, count, hcount, settings.order, h.order, ?_⟩
    have hcontentType : Text.content? (Entries.get? "type" request) = settings.contentType :=
      Option.ext fun text => (Text.content?_eq_some _ text).trans (h.contentType text).symm
    obtain ⟨_, text, _, interval, countOnly, filters, defaulted⟩ := settings
    obtain rfl : text = none := h.text
    obtain rfl : interval = .month := h.interval
    obtain rfl : countOnly = none := h.countOnly
    obtain rfl : filters = some { start, count } := hfilters
    obtain rfl : defaulted = { interval := true, count := false } := h.defaulted
    rw [hcontentType]
    rfl

lemma settings_error (h : request.settings = .error e) :
    ∃ parameter, request.FirstUnusable parameter ∧
      ∃ description, e = .badParameter parameter (some description) := by
  simp only [Request.settings, bind_eq_error] at h
  rcases h with hstart | ⟨start, hstart, hcount | ⟨count, hcount, horder | ⟨order, -, hpure⟩⟩⟩
  · obtain ⟨raw, hraw, hnone, he⟩ := word?_error hstart
    exact ⟨"start", ⟨⟨raw, hraw, .start hnone⟩, [], _, rfl, by simp⟩, he⟩
  · have husable := usable_start ((word?_eq_ok _ _).mp hstart)
    obtain ⟨raw, hraw, hnone, he⟩ := word?_error hcount
    exact ⟨"count", ⟨⟨raw, hraw, .count hnone⟩, ["start"], _, rfl, by simpa using husable⟩, he⟩
  · have hstart := usable_start ((word?_eq_ok _ _).mp hstart)
    have hcount := usable_count ((word?_eq_ok _ _).mp hcount)
    obtain ⟨raw, hraw, hnone, he⟩ := order?_error horder
    exact ⟨"sortBy", ⟨⟨raw, hraw, (unusable_order_iff raw).mpr hnone⟩, ["start", "count"], _, rfl,
      by simpa using ⟨hstart, hcount⟩⟩, he⟩
  · cases hpure

lemma usable_of_asks {settings : Settings} (h : request.Asks settings) :
    ∀ parameter ∈ checked, request.Usable parameter := by
  obtain ⟨start, count, -, hstart, hcount⟩ := h.filters
  simp only [checked, List.forall_mem_cons, List.not_mem_nil, false_implies, implies_true, and_true]
  exact ⟨usable_start hstart, usable_count hcount, usable_of_rel unusable_order_iff h.order⟩

lemma FirstUnusable.not_usable {parameter : String} (h : request.FirstUnusable parameter) :
    ¬∀ other ∈ checked, request.Usable other := by
  intro husable
  obtain ⟨raw, hraw, hunusable⟩ := h.unusable
  obtain ⟨before, after, hchecked, -⟩ := h.first
  have hmem : parameter ∈ checked := by
    rw [hchecked]
    simp
  exact husable parameter hmem raw hraw hunusable

lemma accepted_iff :
    (∃ settings, request.settings = .ok settings) ↔
      ∀ parameter ∈ checked, request.Usable parameter := by
  constructor
  · rintro ⟨settings, h⟩
    exact usable_of_asks ((settings_eq_ok settings).mp h)
  · intro husable
    cases h : request.settings with
    | ok settings => exact ⟨settings, rfl⟩
    | error e =>
      obtain ⟨parameter, hfirst, -⟩ := settings_error h
      exact absurd husable hfirst.not_usable

lemma settings_congr {other : Request}
    (h : ∀ parameter ∈ "type" :: checked,
      Entries.get? parameter other = Entries.get? parameter request) :
    other.settings = request.settings := by
  simp only [checked, List.forall_mem_cons, List.not_mem_nil, false_implies, implies_true,
    and_true] at h
  obtain ⟨htype, hstart, hcount, horder⟩ := h
  simp only [Request.settings, word?, order?, htype, hstart, hcount, horder]

end Request

/-- A request is accepted exactly if its parameters are usable, and asks for what they say.
Otherwise the first unusable one is to blame. No request has a text of its own. -/
theorem settingsOfRequest_asks (request : Request) :
    ((∃ settings, settingsOfRequest (some request) = .ok settings) ↔
        ∀ parameter ∈ Request.checked, request.Usable parameter) ∧
      (∀ settings, settingsOfRequest (some request) = .ok settings ↔ request.Asks settings) ∧
      (∀ e, settingsOfRequest (some request) = .error e →
        ∃ parameter, request.FirstUnusable parameter ∧
          ∃ description, e = .badParameter parameter (some description)) ∧
      (∀ other : Request, (∀ parameter ∈ "type" :: Request.checked,
          Entries.get? parameter other = Entries.get? parameter request) →
        settingsOfRequest (some other) = settingsOfRequest (some request)) ∧
      settingsOfRequest none = .ok { defaulted := { interval := true } } ∧
      ∀ given settings, settingsOfRequest given = .ok settings →
        canonicalSettings (some settings) = .ok { settings with text := some matchAll } := by
  refine ⟨Request.accepted_iff, Request.settings_eq_ok, fun e => Request.settings_error,
    fun other => Request.settings_congr, rfl, ?_⟩
  intro given settings h
  have htext : settings.text = none := by
    cases given with
    | none => exact Except.ok.inj h ▸ rfl
    | some request => exact ((Request.settings_eq_ok settings).mp h).text
  rw [canonicalSettings, Settings.canonical, htext, canonicalText]

def pagedRequest : Request :=
  [("count", "010"), ("q", "a*"), ("sortBy", "Old"), ("type", " news ")]

def pagedSettings : Settings :=
  { Request.defaultSettings with
    contentType := some "news"
    order := some .oldest
    filters := some { count := some 10 } }

theorem settingsOfRequest_asks_sample :
    Request.Asks pagedRequest pagedSettings ∧
      Request.FirstUnusable [("count", "-1"), ("sortBy", "new ")] "count" ∧
      settingsOfRequest (some [("type", " news "), ("sortBy", "Old"), ("count", "010")]) =
        settingsOfRequest (some pagedRequest) ∧
      canonicalSettings (some pagedSettings) =
        .ok { pagedSettings with text := some matchAll } := by
  obtain ⟨-, hasks, -, hsame, -, hcanonical⟩ := settingsOfRequest_asks pagedRequest
  have hread : settingsOfRequest (some pagedRequest) = .ok pagedSettings := by decide
  refine ⟨(hasks pagedSettings).mp hread, ?_, hsame _ (by decide), hcanonical _ _ hread⟩
  obtain ⟨-, -, hrefused, -⟩ := settingsOfRequest_asks [("count", "-1"), ("sortBy", "new ")]
  obtain ⟨parameter, hfirst, description, he⟩ := hrefused
    (.badParameter "count" (some "invalid digit found in string")) (by decide)
  obtain rfl : "count" = parameter := by
    cases he
    rfl
  exact hfirst

end ContentHub.Query
