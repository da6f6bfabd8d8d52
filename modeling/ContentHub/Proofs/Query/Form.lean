import ContentHub.Proofs.Query.Names
import Mathlib.Tactic

namespace ContentHub.Query

inductive Lenient.Reads {α : Type} (names : String → α → Prop) (default : α) :
    Option String → Lenient α → Prop
  | named {raw : String} {x : α} (h : names raw x) : Reads names default (some raw) ⟨x, false⟩
  | default {raw : Option String} (h : ∀ text ∈ raw, ∀ x, ¬names text x) :
      Reads names default raw ⟨default, true⟩

lemma Lenient.read_eq_iff {α : Type} {read : String → Option α} {names : String → α → Prop}
    (hread : ∀ text x, read text = some x ↔ names text x) (default : α) (raw : Option String)
    (found : Lenient α) :
    Lenient.read read default raw = found ↔ Lenient.Reads names default raw found := by
  have hnone : raw.bind read = none ↔ ∀ text ∈ raw, ∀ x, ¬names text x := by
    cases raw with
    | none => simp
    | some text => simp [← hread, Option.eq_none_iff_forall_ne_some]
  simp only [Lenient.read]
  constructor
  · rintro rfl
    split
    · next x hx =>
      obtain ⟨text, rfl, htext⟩ := Option.bind_eq_some_iff.mp hx
      exact .named ((hread text x).mp htext)
    · next hx => exact .default (hnone.mp hx)
  · rintro (h | h)
    · rw [Option.bind_some, (hread _ _).mpr h]
    · rw [hnone.mpr h]

namespace Form

def filterFields : List String :=
  ["filters[author][]", "filters[project][]", "filters[mailList][]", "filters[from]",
    "filters[to]", "filters[past]"]

def fields : List String :=
  ["query", "filters[interval]", "count"] ++ filterFields

def used (form : Form) : Form :=
  form.filter fun entry => entry.1 ∈ fields ∧ form.values entry.1 ≠ []

inductive Counts : List String → Option Bool → Bool → Prop
  | absent : Counts [] none false
  | given {raw : String} {rest : List String} {found : Lenient Bool}
      (h : Lenient.Reads NamesTruth false (some raw) found) :
      Counts (raw :: rest) (some found.value) found.defaulted

structure Asks (form : Form) (settings : Settings) : Prop where
  text : settings.text = some ((form.values "query").head?.getD "")
  interval : Lenient.Reads Interval.Names .month (form.values "filters[interval]").head?
    ⟨settings.interval, settings.defaulted.interval⟩
  count : Counts (form.values "count") settings.countOnly settings.defaulted.count
  filtered : settings.filters.isSome = true ↔ ∃ field ∈ filterFields, form.values field ≠ []
  filters : settings.filters.getD {} = {
    authors := form.values "filters[author][]"
    projects := form.values "filters[project][]"
    mailLists := form.values "filters[mailList][]"
    earliest := (form.values "filters[from]").head?
    latest := (form.values "filters[to]").head?
    past := (form.values "filters[past]").head? }
  contentType : settings.contentType = none
  order : settings.order = none

lemma values_used (form : Form) {field : String} (h : field ∈ fields) :
    form.used.values field = form.values field := by
  rw [used, values, Entries.get?_filter_keys fun name => name ∈ fields ∧ form.values name ≠ []]
  split
  · rfl
  · next hunused =>
    have hnone : form.values field = [] := by simp_all
    rw [hnone, Option.getD_none]

lemma settings_congr {form other : Form}
    (h : ∀ field ∈ fields, other.values field = form.values field) :
    other.settings = form.settings := by
  simp only [fields, filterFields, List.forall_mem_append, List.forall_mem_cons,
    List.not_mem_nil, false_implies, implies_true, and_true] at h
  obtain ⟨⟨hquery, hinterval, hcount⟩, hauthors, hprojects, hlists, hfrom, hto, hpast⟩ := h
  have hfilters : other.filters = form.filters := by
    simp only [filters, first?, hauthors, hprojects, hlists, hfrom, hto, hpast]
  rw [settings, settings, filters?, filters?, hfilters]
  simp only [first?, hquery, hinterval, hcount]

lemma filters_ne_iff (form : Form) :
    form.filters ≠ {} ↔ ∃ field ∈ filterFields, form.values field ≠ [] := by
  simp [filters, first?, filterFields, Filters.mk.injEq, -not_and, not_and_or]

lemma filters?_eq_iff (form : Form) (found : Option Filters) :
    form.filters? = found ↔
      (found.isSome = true ↔ ∃ field ∈ filterFields, form.values field ≠ []) ∧
        found.getD {} = form.filters := by
  rw [← filters_ne_iff]
  by_cases hnone : form.filters = {}
  · rw [filters?, if_pos hnone]
    cases found <;> simp [hnone]
  · rw [filters?, if_neg hnone]
    cases found <;> simp [hnone, eq_comm]

lemma counts_iff (values : List String) (count : Option (Lenient Bool))
    (h : count = values.head?.map fun raw => Lenient.read truth? false (some raw))
    (countOnly : Option Bool) (defaulted : Bool) :
    (count.map Lenient.value = countOnly ∧ (count.map Lenient.defaulted).getD false = defaulted) ↔
      Counts values countOnly defaulted := by
  subst h
  constructor
  · rintro ⟨rfl, rfl⟩
    cases values with
    | nil => exact .absent
    | cons raw rest => exact .given ((Lenient.read_eq_iff truth?_eq_some _ _ _).mp rfl)
  · rintro (_ | h)
    · exact ⟨rfl, rfl⟩
    · obtain rfl := (Lenient.read_eq_iff truth?_eq_some _ _ _).mpr h
      exact ⟨rfl, rfl⟩

lemma settings_eq_iff (form : Form) (settings : Settings) :
    form.settings = settings ↔ form.Asks settings := by
  have hcount := counts_iff (form.values "count") _ rfl
  have hinterval := Lenient.read_eq_iff Interval.named?_eq_some .month
    (form.values "filters[interval]").head?
  constructor
  · rintro rfl
    obtain ⟨hfiltered, hfilters⟩ := (filters?_eq_iff form _).mp rfl
    exact ⟨rfl, (hinterval _).mp rfl, (hcount _ _).mp ⟨rfl, rfl⟩, hfiltered, hfilters, rfl, rfl⟩
  · intro h
    obtain ⟨hcountOnly, hdefaulted⟩ := (hcount _ _).mpr h.count
    have hfilters := (filters?_eq_iff form _).mpr ⟨h.filtered, h.filters⟩
    have hread := (hinterval _).mpr h.interval
    have hsame : form.settings = { settings with contentType := none, order := none } := by
      simp only [Form.settings, first?, hcountOnly, hdefaulted, hfilters, hread, h.text]
    obtain ⟨contentType, _, order, _, _, _, _⟩ := settings
    obtain rfl : contentType = none := h.contentType
    obtain rfl : order = none := h.order
    exact hsame

end Form

/-- Every form is read, and the settings are those that it asks for. Fields that are unknown or have
no values change nothing. -/
theorem settingsOfForm_asks (form : Form) :
    (∃ settings, settingsOfForm (some form) = .ok settings) ∧
      (∀ settings, settingsOfForm (some form) = .ok settings ↔ form.Asks settings) ∧
      (∀ other : Form, (∀ field ∈ Form.fields, other.values field = form.values field) →
        settingsOfForm (some other) = settingsOfForm (some form)) ∧
      settingsOfForm (some form.used) = settingsOfForm (some form) := by
  have hcongr : ∀ other : Form,
      (∀ field ∈ Form.fields, other.values field = form.values field) →
        settingsOfForm (some other) = settingsOfForm (some form) := fun other h => by
    rw [settingsOfForm, settingsOfForm, Form.settings_congr h]
  refine ⟨⟨_, rfl⟩, fun settings => ?_, hcongr, hcongr _ fun field => form.values_used⟩
  rw [settingsOfForm, Except.ok.injEq, form.settings_eq_iff]

def sparseForm : Form :=
  [("count", ["maybe", "true"]), ("filters[from]", []), ("filters[interval]", [" 1W "]),
    ("page", ["7"]), ("query", ["a*", "b"])]

def sparseSettings : Settings where
  text := some "a*"
  interval := .week
  countOnly := some false
  defaulted := { count := true }

theorem settingsOfForm_asks_sample :
    sparseForm.Asks sparseSettings ∧
      settingsOfForm (some [("filters[past]", []), ("query", ["a*", "b"]),
        ("filters[interval]", [" 1W "]), ("count", ["maybe", "true"])]) =
          settingsOfForm (some sparseForm) := by
  obtain ⟨-, hasks, hsame, -⟩ := settingsOfForm_asks sparseForm
  exact ⟨(hasks sparseSettings).mp (by decide), hsame _ (by decide)⟩

end ContentHub.Query
