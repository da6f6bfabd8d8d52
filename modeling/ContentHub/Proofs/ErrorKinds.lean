import ContentHub.Pipeline
import ContentHub.Proofs.Lookup.Agreement
import ContentHub.Proofs.Lookup.Failure
import ContentHub.Proofs.Lookup.Soundness
import ContentHub.Proofs.Query.Request
import Mathlib.Tactic

namespace ContentHub

def Mentions (message text : String) : Prop :=
  ∃ before after, message = before ++ text ++ after

lemma Mentions.behind {message text : String} (h : Mentions message text) (before : String) :
    Mentions (before ++ message) text := by
  obtain ⟨left, right, rfl⟩ := h
  exact ⟨before ++ left, right, by simp only [String.append_assoc]⟩

lemma Mentions.ahead {message text : String} (h : Mentions message text) (after : String) :
    Mentions (message ++ after) text := by
  obtain ⟨left, right, rfl⟩ := h
  exact ⟨left, right ++ after, by simp only [String.append_assoc]⟩

lemma Error.message_integrity (fault : IntegrityFault) :
    (Error.integrity fault).message =
      "configuration integrity violation: " ++ fault.text ++ " " ++ IntegrityFault.hint := by
  have hmessage : (Error.integrity fault).message =
      "configuration integrity violation: " ++ (fault.text ++ " " ++ IntegrityFault.hint) := rfl
  rw [hmessage, String.append_assoc, String.append_assoc, String.append_assoc]

lemma mentions_integrity {fault : IntegrityFault} {text : String} (h : Mentions fault.text text) :
    Mentions (Error.integrity fault).message text := by
  rw [Error.message_integrity]
  exact ((h.behind _).ahead _).ahead _

lemma mentions_provider (name rest : String) :
    Mentions ("Incorrect configuration for provider '" ++ name ++ ("'" ++ rest))
      ("'" ++ name ++ "'") := by
  have hopen : "Incorrect configuration for provider '" =
      "Incorrect configuration for provider " ++ "'" := by decide
  refine ⟨"Incorrect configuration for provider ", rest, ?_⟩
  rw [hopen]
  simp only [String.append_assoc]

lemma mentions_typesNotMapping (name : String) :
    Mentions (IntegrityFault.typesNotMapping name).text ("'" ++ name ++ "'") :=
  mentions_provider name ": 'type' is not a mapping."

lemma mentions_misshapen (name : String) (fault : ShapeFault) :
    Mentions (IntegrityFault.misshapen name fault).text ("'" ++ name ++ "'") :=
  ((mentions_provider name ": ").ahead fault.message).ahead "."

structure Error.OfConfiguration (e : Error) : Prop where
  fault : ∃ fault, e = .integrity fault
  blameless : e.isClientFault = false
  unnamed : e.parameter? = none
  hint : ∃ text, e.message = text ++ IntegrityFault.hint

lemma ofConfiguration_of_fault {e : Error} (h : ∃ fault, e = .integrity fault) :
    e.OfConfiguration := by
  obtain ⟨fault, rfl⟩ := h
  exact ⟨⟨fault, rfl⟩, rfl, rfl, ⟨_, Error.message_integrity fault⟩⟩

namespace Query

structure Absent {α : Type} (argument : Option α) (e : Error) : Prop where
  absent : argument = none
  input : ∃ text, e = .invalidInput text
  client : e.isClientFault = true

structure Blames (request : Request) (parameter : String) (e : Error) : Prop where
  unusable : ∃ raw, Entries.get? parameter request = some raw ∧ Unusable parameter raw
  bad : ∃ description, e = .badParameter parameter (some description)
  named : e.parameter? = some parameter
  client : e.isClientFault = true

lemma settingsOfForm_error {form : Option Form} {e : Error} (h : settingsOfForm form = .error e) :
    Absent form e := by
  cases form with
  | some form => cases h
  | none =>
    obtain rfl := Except.error.inj h
    exact ⟨rfl, ⟨_, rfl⟩, rfl⟩

lemma canonicalSettings_error {settings : Option Settings} {e : Error}
    (h : canonicalSettings settings = .error e) : Absent settings e := by
  cases settings with
  | some settings => cases h
  | none =>
    obtain rfl := Except.error.inj h
    exact ⟨rfl, ⟨_, rfl⟩, rfl⟩

lemma blames_of_firstUnusable {request : Request} {parameter : String} {e : Error}
    (h : request.FirstUnusable parameter)
    (he : ∃ description, e = .badParameter parameter (some description)) :
    Blames request parameter e := by
  obtain ⟨description, rfl⟩ := he
  exact ⟨h.unusable, ⟨description, rfl⟩, rfl, rfl⟩

lemma settingsOfRequest_error {request : Option Request} {e : Error}
    (h : settingsOfRequest request = .error e) :
    ∃ parameters parameter, request = some parameters ∧ Blames parameters parameter e := by
  cases request with
  | none => cases h
  | some parameters =>
    obtain ⟨parameter, hfirst, he⟩ := Request.settings_error h
    exact ⟨parameters, parameter, rfl, blames_of_firstUnusable hfirst he⟩

end Query

lemma Provider.ofDocument_error_mentions {document : Json} {e : Error} {name : String}
    (h : ofDocument document = .error e) (hname : document.member? "name" = some (.string name)) :
    Mentions e.message ("'" ++ name ++ "'") := by
  cases document with
  | object members =>
    have hget : Entries.get? "name" members = some (.string name) := hname
    simp only [ofDocument, hget] at h
    split at h
    · split at h
      · cases h
      · next fault _ =>
        obtain rfl := Except.error.inj h
        exact mentions_integrity (mentions_misshapen name fault)
    · obtain rfl := Except.error.inj h
      exact mentions_integrity (mentions_typesNotMapping name)
  | null | bool | number | string | array => cases hname

lemma mentions_untaggedType (id : String) :
    Mentions (Error.integrity (.untaggedType id)).message id :=
  mentions_integrity ⟨"dcp_type is not defined correctly for dcp_provider_type=", ".", rfl⟩

lemma ContentType.checkedTag_error {type : ContentType} {e : Error}
    (h : type.checkedTag = .error e) : e = .integrity (.untaggedType type.id) := by
  simp only [checkedTag] at h
  split at h
  · split at h
    · exact (Except.error.inj h).symm
    · cases h
  · exact (Except.error.inj h).symm

namespace Registry

def Honest (registry : Registry) : Prop :=
  ∀ entry ∈ registry.constructors, ∀ spec e, entry.2 spec = .error e → ∃ fault, e = .integrity fault

variable {registry : Registry} {e : Error}

lemma stage_error (honest : registry.Honest) {index : ℕ} {spec : StageSpec}
    (h : registry.stage index spec = .error e) : ∃ fault, e = .integrity fault := by
  simp only [stage] at h
  split at h
  · exact ⟨_, (Except.error.inj h).symm⟩
  · split at h
    · exact ⟨_, (Except.error.inj h).symm⟩
    · next kind _ _ constructor hconstructor =>
      have hmem := Entries.mem_of_get? kind registry.constructors constructor hconstructor
      exact honest _ hmem spec e h

lemma stages_error (honest : registry.Honest) {index : ℕ} {specs : List StageSpec}
    (h : registry.stages index specs = .error e) : ∃ fault, e = .integrity fault := by
  induction specs generalizing index with
  | nil => cases h
  | cons spec rest ih =>
    simp only [stages, bind_eq_error] at h
    rcases h with hstage | ⟨stage, -, hrest | ⟨stages, -, hpure⟩⟩
    · exact stage_error honest hstage
    · exact ih hrest
    · cases hpure

lemma run_error (honest : registry.Honest) {specs : List StageSpec} {content : Content}
    (h : registry.run specs content = .error e) : ∃ fault, e = .integrity fault :=
  stages_error honest (error_of_map h)

end Registry

/-- Whose fault each error is. Requests blame the client, and a parameter if one is unusable. All
that is read from documents blames the configuration, except by a database that was never made or
has a text that cannot be read. -/
theorem errors_by_cause :
    (∀ form e, Query.settingsOfForm form = .error e → Query.Absent form e) ∧
      (∀ settings e, Query.canonicalSettings settings = .error e → Query.Absent settings e) ∧
      (∀ request e, Query.settingsOfRequest request = .error e →
        ∃ parameters parameter, request = some parameters ∧
          Query.Blames parameters parameter e) ∧
      (∀ document e, Provider.ofDocument document = .error e →
        e.OfConfiguration ∧ ∀ name, document.member? "name" = some (.string name) →
          Mentions e.message ("'" ++ name ++ "'")) ∧
      (∀ (type : ContentType) e, type.checkedTag = .error e →
        e.OfConfiguration ∧ Mentions e.message type.id) ∧
      (∀ registry : Registry, registry.Honest → ∀ specs content e,
        registry.run specs content = .error e → e.OfConfiguration) ∧
      (∀ collection check e, (Source.memory collection).Fails check e → e.OfConfiguration) ∧
      ∀ connection session ledger, Held connection session ledger → ∀ check e,
        (Source.disk connection session.files).Fails check e →
          e.OfConfiguration ∨ Broken connection ledger e := by
  refine ⟨fun _ _ => Query.settingsOfForm_error, fun _ _ => Query.canonicalSettings_error,
    fun _ _ => Query.settingsOfRequest_error, ?_, ?_, ?_, ?_, ?_⟩
  · intro document e h
    exact ⟨ofConfiguration_of_fault (Provider.ofDocument_error document e h),
      fun name => Provider.ofDocument_error_mentions h⟩
  · intro type e h
    obtain rfl := ContentType.checkedTag_error h
    exact ⟨ofConfiguration_of_fault ⟨_, rfl⟩, mentions_untaggedType type.id⟩
  · intro registry honest specs content e h
    exact ofConfiguration_of_fault (Registry.run_error honest h)
  · intro collection check e h
    exact ofConfiguration_of_fault (fault_of_memory h)
  · intro connection session ledger hheld check e h
    exact (fault_of_held hheld h).imp_left ofConfiguration_of_fault

section Samples

open Store

lemma held_doubledRun : Held sampleConnection doubledRun.1 doubledRun.2 :=
  .intro (reachable_sample _) 1 (by decide +kernel)

lemma storable_doubledRun : doubledRun.2.Storable := by
  simp [Ledger.Storable, documents_doubledRun, storable_nested, storable_sample]

lemma ready_doubledRun : doubledRun.2.ready = true := by
  decide +kernel

lemma findProvider_doubledRun :
    ((Source.disk sampleConnection doubledRun.1.files).ask Password.check fun backend =>
      backend.findProvider "press") = .error (.integrity (.duplicateProvider "press")) := by
  rw [findProvider_stocked (.disk held_doubledRun ready_doubledRun storable_doubledRun),
    documents_doubledRun]
  decide

lemma not_broken_doubledRun (e : Error) : ¬Broken sampleConnection doubledRun.2 e := by
  rintro ⟨-, -, -, ⟨-, hwaiting⟩ | ⟨entry, hentry, hread⟩⟩
  · cases ready_doubledRun.symm.trans hwaiting
  · cases hread.symm.trans (storable_doubledRun entry hentry).readsBack

theorem errors_by_cause_sample :
    Query.Blames [("count", "-1")] "count"
        (.badParameter "count" (some "invalid digit found in string")) ∧
      Mentions (Error.integrity (.typesNotMapping "press")).message "'press'" ∧
      (Error.integrity (.unknownClass "tidy")).OfConfiguration ∧
      (Error.integrity (.duplicateProvider "press")).OfConfiguration := by
  obtain ⟨-, -, hrequest, hdocument, -, hregistry, -, hdisk⟩ := errors_by_cause
  refine ⟨?_, ?_, ?_, ?_⟩
  · obtain ⟨parameters, parameter, hsome, hblames⟩ := hrequest (some [("count", "-1")])
      (.badParameter "count" (some "invalid digit found in string")) (by decide)
    obtain rfl := Option.some.inj hsome
    obtain rfl : "count" = parameter := Option.some.inj hblames.named
    exact hblames
  · have hmentions := hdocument (.object [("name", .string "press"), ("type", .whole 3)])
      (.integrity (.typesNotMapping "press")) (by decide)
    exact hmentions.2 "press" (by decide)
  · exact hregistry {} (by simp [Registry.Honest]) [⟨[("class", .string "tidy")]⟩] [] _ rfl
  · have hfails := hdisk _ _ _ held_doubledRun Password.check _
      (.provider "press" findProvider_doubledRun)
    exact hfails.resolve_right (not_broken_doubledRun _)

theorem lookups_of_broken_databases :
    Held sampleConnection blockedRun.1 blockedRun.2 ∧
      ((Source.disk sampleConnection blockedRun.1.files).ask Password.check fun backend =>
        backend.authenticate (some "press") (some "secret")) =
          .error (.storage (.engine .noTable)) ∧
      Held writingConnection deepRun.1 deepRun.2 ∧
      deepRun.2.documents = [("i", deepDocument "press" 127)] ∧
      (∃ fault, ((Source.disk writingConnection deepRun.1.files).ask Password.check fun backend =>
        backend.findType "the \"essay\"") = .error (.storage fault)) ∧
      ∀ fault, ¬(Error.storage fault).OfConfiguration := by
  refine ⟨held_blockedRun, by decide +kernel, held_deepRun, documents_deepRun, ?_, ?_⟩
  · refine findType_unread Password.check held_deepRun (by decide +kernel) ?_ _ (by decide)
    simp [documents_deepRun, read?_deepDocument "press" 127 le_rfl]
  · rintro fault ⟨⟨_, h⟩, -⟩
    cases h

end Samples

end ContentHub
