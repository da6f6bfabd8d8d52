import ContentHub.Proofs.Query.Request
import Mathlib.Tactic

namespace ContentHub.Query

def Settings.number? (settings : Settings) (parameter : String) : Option UInt32 :=
  settings.filters.bind fun filters =>
    if parameter = "start" then filters.start else filters.count

namespace Request

def Takes (request : Request) (parameter : String) (n : UInt32) : Prop :=
  ∃ settings, settingsOfRequest (some request) = .ok settings ∧ settings.number? parameter = some n

def Blames (request : Request) (parameter description : String) : Prop :=
  settingsOfRequest (some request) = .error (.badParameter parameter (some description))

structure ReadsNumber (request : Request) (parameter raw : String) : Prop where
  accepted : (∀ other ∈ checked, other ≠ parameter → request.Usable other) →
    ∀ n : UInt32, request.Takes parameter n ↔ Text.Denotes raw.toList n.toNat
  printed : (∀ other ∈ checked, other ≠ parameter → request.Usable other) →
    ∀ n : UInt32, raw = toString n → request.Takes parameter n
  empty : request.Blames parameter "cannot parse integer from empty string" ↔ raw = ""
  tooLarge : request.Blames parameter "number too large to fit in target type" ↔
    Text.Overflows (2 ^ 32) raw.toList
  invalidDigit : request.Blames parameter "invalid digit found in string" ↔
    raw = "+" ∨ Text.Stops (2 ^ 32) raw.toList
  remaining : raw = "+" ∨ Text.Stops (2 ^ 32) raw.toList ↔
    raw ≠ "" ∧ ¬Text.Overflows (2 ^ 32) raw.toList ∧ ∀ n < 2 ^ 32, ¬Text.Denotes raw.toList n

variable {request : Request} {parameter raw : String}

lemma number?_of_asks {settings : Settings} (hparameter : parameter = "start" ∨ parameter = "count")
    (h : request.Asks settings) :
    Option.Rel DenotesWord (Entries.get? parameter request) (settings.number? parameter) := by
  obtain ⟨start, count, hfilters, hstart, hcount⟩ := h.filters
  rcases hparameter with rfl | rfl
  · simpa [Settings.number?, hfilters] using hstart
  · simpa [Settings.number?, hfilters] using hcount

lemma takes_iff (hparameter : parameter = "start" ∨ parameter = "count")
    (hraw : Entries.get? parameter request = some raw)
    (hothers : ∀ other ∈ checked, other ≠ parameter → request.Usable other) (n : UInt32) :
    request.Takes parameter n ↔ DenotesWord raw n := by
  have hnumber : ∀ settings, settingsOfRequest (some request) = .ok settings →
      ∃ m, settings.number? parameter = some m ∧ DenotesWord raw m := by
    intro settings hsettings
    have hrel := number?_of_asks hparameter ((settings_eq_ok settings).mp hsettings)
    rw [hraw] at hrel
    cases hm : settings.number? parameter with
    | none => simp [hm] at hrel
    | some m =>
      rw [hm] at hrel
      exact ⟨m, rfl, Option.rel_some_some.mp hrel⟩
  constructor
  · rintro ⟨settings, hsettings, hn⟩
    obtain ⟨m, hm, hdenotes⟩ := hnumber settings hsettings
    obtain rfl := Option.some.inj (hm.symm.trans hn)
    exact hdenotes
  · intro hdenotes
    -- the text is usable as well, so nothing is left to refuse the request for
    have husable : ∀ other ∈ checked, request.Usable other := by
      intro other hother
      by_cases hsame : other = parameter
      · rintro given hgiven hunusable
        subst hsame
        obtain rfl := Option.some.inj (hraw.symm.trans hgiven)
        exact (unusable_word_iff hparameter raw).mp hunusable n hdenotes
      · exact hothers other hother hsame
    obtain ⟨settings, hsettings⟩ := accepted_iff.mpr husable
    obtain ⟨m, hm, hm'⟩ := hnumber settings hsettings
    obtain rfl : m = n := UInt32.toNat_inj.mp (hm'.value.symm.trans hdenotes.value)
    exact ⟨settings, hsettings, hm⟩

lemma word?_eq_error (hraw : Entries.get? parameter request = some raw) (e : Error) :
    request.word? parameter = .error e ↔
      ∃ fault, Text.readWord raw = .error fault ∧
        e = .badParameter parameter (some fault.message) := by
  simp only [word?, hraw]
  cases Text.readWord raw with
  | ok n => simp
  | error fault => simp [eq_comm]

lemma word?_of_usable (hparameter : parameter = "start" ∨ parameter = "count")
    (h : request.Usable parameter) : ∃ x, request.word? parameter = .ok x := by
  cases hread : request.word? parameter with
  | ok x => exact ⟨x, rfl⟩
  | error e =>
    obtain ⟨raw, hraw, hnone, -⟩ := word?_error hread
    exact absurd ((unusable_word_iff hparameter raw).mpr hnone) (h raw hraw)

lemma blames_iff (hparameter : parameter = "start" ∨ parameter = "count")
    (hearlier : parameter = "count" → request.Usable "start") (description : String) :
    request.Blames parameter description ↔
      request.word? parameter = .error (.badParameter parameter (some description)) := by
  have hother : ∀ {name : String} {e : Error}, request.word? name = .error e →
      ∃ text, e = .badParameter name (some text) := by
    intro name e h
    obtain ⟨-, -, -, text, he⟩ := word?_error h
    exact ⟨text, he⟩
  have horder : ∀ {e : Error}, request.order? = .error e →
      ∃ text, e = .badParameter "sortBy" (some text) := by
    intro e h
    obtain ⟨-, -, -, text, he⟩ := order?_error h
    exact ⟨text, he⟩
  simp only [Blames, settingsOfRequest, Request.settings, bind_eq_error]
  rcases hparameter with rfl | rfl
  · refine ⟨?_, Or.inl⟩
    rintro (h | ⟨start, -, hcount | ⟨count, -, hlast | ⟨order, -, hpure⟩⟩⟩)
    · exact h
    · obtain ⟨text, htext⟩ := hother hcount
      simp at htext
    · obtain ⟨text, htext⟩ := horder hlast
      simp at htext
    · cases hpure
  · obtain ⟨start, hstart⟩ := word?_of_usable (Or.inl rfl) (hearlier rfl)
    constructor
    · rintro (h | ⟨_, -, hcount | ⟨count, -, hlast | ⟨order, -, hpure⟩⟩⟩)
      · cases hstart.symm.trans h
      · exact hcount
      · obtain ⟨text, htext⟩ := horder hlast
        simp at htext
      · cases hpure
    · intro hcount
      exact Or.inr ⟨start, hstart, Or.inl hcount⟩

lemma message_injective : Function.Injective Text.NaturalFault.message := by
  intro fault other
  cases fault <;> cases other <;> decide

lemma blames_message_iff (hparameter : parameter = "start" ∨ parameter = "count")
    (hraw : Entries.get? parameter request = some raw)
    (hearlier : parameter = "count" → request.Usable "start") (fault : Text.NaturalFault) :
    request.Blames parameter fault.message ↔
      Text.readNatural (2 ^ 32) raw.toList = .error fault := by
  have hread : Text.readWord raw = .error fault ↔
      Text.readNatural (2 ^ 32) raw.toList = .error fault := Text.readWord_eq_error raw fault
  rw [blames_iff hparameter hearlier, word?_eq_error hraw, ← hread]
  constructor
  · rintro ⟨other, hother, he⟩
    simp only [Error.badParameter.injEq, Option.some.injEq, true_and] at he
    exact message_injective he ▸ hother
  · intro h
    exact ⟨fault, h, rfl⟩

end Request

/-- A request takes a number exactly if the text denotes it; the limit never makes it another one.
What a text is refused for is decided by what comes first in it. -/
theorem settingsOfRequest_numbers {request : Request} {parameter raw : String}
    (hparameter : parameter = "start" ∨ parameter = "count")
    (hraw : Entries.get? parameter request = some raw)
    (hearlier : parameter = "count" → request.Usable "start") :
    request.ReadsNumber parameter raw := by
  have hlimit : 0 < 2 ^ 32 := by decide
  have hempty : raw.toList = [] ↔ raw = "" := by
    rw [← String.toList_inj]
    rfl
  have hplus : raw.toList = ['+'] ↔ raw = "+" := by
    rw [← String.toList_inj]
    rfl
  have htakes := Request.takes_iff hparameter hraw
  have hmessage := Request.blames_message_iff hparameter hraw hearlier
  refine ⟨htakes, fun hothers n hn => ?_, ?_, ?_, ?_, ?_⟩
  · apply (htakes hothers n).mpr
    rw [hn]
    exact Text.denotes_toString n.toNat
  · rw [← hempty, ← Text.readNatural_eq_empty (2 ^ 32)]
    exact hmessage .empty
  · rw [← Text.readNatural_eq_tooLarge hlimit]
    exact hmessage .tooLarge
  · rw [← hplus, ← Text.readNatural_eq_invalidDigit hlimit]
    exact hmessage .invalidDigit
  · rw [← hplus, ne_eq, ← hempty]
    exact Text.stops_iff hlimit raw.toList

def numberedRequest : Request :=
  [("count", "+004294967295"), ("start", "7")]

theorem settingsOfRequest_numbers_sample :
    numberedRequest.ReadsNumber "count" "+004294967295" ∧
      numberedRequest.Takes "count" 4294967295 ∧
      Request.Blames [("start", "42949672960x")] "start" "number too large to fit in target type" ∧
      Request.Blames [("start", "429496729x")] "start" "invalid digit found in string" := by
  have hseven : Request.DenotesWord "7" 7 :=
    ⟨by decide +kernel, List.all_eq_true.mp (by decide +kernel), by decide +kernel⟩
  have hlast : Text.Denotes "+004294967295".toList 4294967295 :=
    ⟨by decide +kernel, List.all_eq_true.mp (by decide +kernel), by decide +kernel⟩
  have hreached : Text.Overflows (2 ^ 32) "42949672960x".toList :=
    ⟨"42949672960".toList, by decide +kernel, List.all_eq_true.mp (by decide +kernel),
      by decide +kernel⟩
  have hstopped : Text.Stops (2 ^ 32) "429496729x".toList :=
    ⟨"429496729".toList, 'x', [], rfl, List.all_eq_true.mp rfl,
      by decide +kernel, rfl⟩
  have hstart : numberedRequest.Usable "start" := Request.usable_start (.some hseven)
  have hcount : numberedRequest.ReadsNumber "count" "+004294967295" :=
    settingsOfRequest_numbers (Or.inr rfl) rfl fun _ => hstart
  have hlarge : Request.ReadsNumber [("start", "42949672960x")] "start" "42949672960x" :=
    settingsOfRequest_numbers (Or.inl rfl) rfl (by simp)
  have hinvalid : Request.ReadsNumber [("start", "429496729x")] "start" "429496729x" :=
    settingsOfRequest_numbers (Or.inl rfl) rfl (by simp)
  refine ⟨hcount, ?_, hlarge.tooLarge.mpr hreached, hinvalid.invalidDigit.mpr (Or.inr hstopped)⟩
  refine (hcount.accepted ?_ 4294967295).mpr hlast
  have horder : numberedRequest.Usable "sortBy" := by
    simp [Request.Usable, numberedRequest, Entries.get?]
  simp [Request.checked, hstart, horder]

end ContentHub.Query
