import ContentHub.Pipeline
import ContentHub.Proofs.Entries
import ContentHub.Proofs.Except
import Mathlib.Data.List.Forall2
import Mathlib.Tactic

namespace ContentHub

def StageSpec.label (spec : StageSpec) : String :=
  match Entries.get? "name" spec.members with
  | some (.string name) => name
  | _ => "unnamed"

namespace Registry

def Known (registry : Registry) (kind : String) (constructor : StageConstructor) : Prop :=
  (kind, constructor) ∈ registry.constructors

inductive Builds (registry : Registry) (spec : StageSpec) (stage : Stage) : Prop
  | intro (kind : String) (constructor : StageConstructor)
      (hclass : Entries.get? "class" spec.members = some (.string kind))
      (hknown : registry.Known kind constructor) (hbuilt : constructor spec = .ok stage)

inductive Fault (registry : Registry) (index : ℕ) (spec : StageSpec) : Error → Prop
  | unclassed (h : ∀ kind, Entries.get? "class" spec.members ≠ some (.string kind)) :
      Fault registry index spec (.integrity (.stageWithoutClass index spec.name?))
  | unknown (kind : String) (hclass : Entries.get? "class" spec.members = some (.string kind))
      (hunknown : ∀ constructor, ¬registry.Known kind constructor) :
      Fault registry index spec (.integrity (.unknownClass kind))
  | refused (kind : String) (constructor : StageConstructor) (e : Error)
      (hclass : Entries.get? "class" spec.members = some (.string kind))
      (hknown : registry.Known kind constructor) (hrefused : constructor spec = .error e) :
      Fault registry index spec e

inductive Carries : List Stage → Content → Content → Prop
  | nil (content : Content) : Carries [] content content
  | cons (stage : Stage) (content : Content) {rest : List Stage} {result : Content}
      (h : Carries rest (stage.apply content) result) : Carries (stage :: rest) content result

structure FirstFault (registry : Registry) (start : ℕ) (specs before : List StageSpec)
    (spec : StageSpec) (e : Error) : Prop where
  position : ∃ after, specs = before ++ spec :: after
  built : ∀ earlier ∈ before, ∃ stage, registry.Builds earlier stage
  fault : registry.Fault (start + before.length) spec e

variable {registry : Registry} {spec : StageSpec} {specs : List StageSpec} {stage : Stage}
  {stages : List Stage} {e : Error}

lemma nodup_kinds (registry : Registry) : registry.kinds.Nodup :=
  registry.sorted.nodup_keys

lemma get?_constructors_iff (kind : String) (constructor : StageConstructor) :
    Entries.get? kind registry.constructors = some constructor ↔
      registry.Known kind constructor :=
  Entries.get?_eq_some_iff registry.nodup_kinds kind constructor

theorem known_register (kind name : String) (constructor other : StageConstructor) :
    (registry.register kind constructor).Known name other ↔
      (name = kind ∧ other = constructor) ∨ (name ≠ kind ∧ registry.Known name other) := by
  rw [← get?_constructors_iff, ← get?_constructors_iff, register, Entries.get?_insert]
  by_cases hname : kind = name
  · simp [hname, eq_comm]
  · simp [hname, Ne.symm hname]

lemma class?_eq_some_iff (kind : String) :
    spec.class? = some kind ↔ Entries.get? "class" spec.members = some (.string kind) := by
  simp only [StageSpec.class?, Option.bind_eq_some_iff]
  constructor
  · rintro ⟨value, hvalue, htext⟩
    cases value <;> simp_all [Json.text?]
  · intro h
    exact ⟨.string kind, h, rfl⟩

lemma stage_eq_ok (index : ℕ) : registry.stage index spec = .ok stage ↔
    registry.Builds spec stage := by
  unfold Registry.stage
  constructor
  · intro h
    split at h
    · cases h
    · next kind hkind =>
      split at h
      · cases h
      · next constructor hconstructor =>
        exact ⟨kind, constructor, (class?_eq_some_iff kind).mp hkind,
          (get?_constructors_iff kind constructor).mp hconstructor, h⟩
  · rintro ⟨kind, constructor, hclass, hknown, hbuilt⟩
    rw [(class?_eq_some_iff kind).mpr hclass]
    simp only [(get?_constructors_iff kind constructor).mpr hknown, hbuilt]

lemma stage_eq_error (index : ℕ) : registry.stage index spec = .error e ↔
    registry.Fault index spec e := by
  unfold Registry.stage
  constructor
  · intro h
    split at h
    · next hnone =>
      obtain rfl := Except.error.inj h
      refine .unclassed fun kind hkind => ?_
      cases hnone.symm.trans ((class?_eq_some_iff kind).mpr hkind)
    · next kind hkind =>
      have hclass := (class?_eq_some_iff kind).mp hkind
      split at h
      · next hnone =>
        obtain rfl := Except.error.inj h
        refine .unknown kind hclass fun constructor hknown => ?_
        cases hnone.symm.trans ((get?_constructors_iff kind constructor).mpr hknown)
      · next constructor hconstructor =>
        exact .refused kind constructor e hclass
          ((get?_constructors_iff kind constructor).mp hconstructor) h
  · intro h
    cases h with
    | unclassed h =>
      have hnone : spec.class? = none := by
        rw [Option.eq_none_iff_forall_ne_some]
        exact fun kind hkind => h kind ((class?_eq_some_iff kind).mp hkind)
      rw [hnone]
    | unknown kind hclass hunknown =>
      have hnone : Entries.get? kind registry.constructors = none := by
        rw [Option.eq_none_iff_forall_ne_some]
        exact fun constructor h => hunknown constructor ((get?_constructors_iff _ _).mp h)
      rw [(class?_eq_some_iff kind).mpr hclass]
      simp only [hnone]
    | refused kind constructor e hclass hknown hrefused =>
      rw [(class?_eq_some_iff kind).mpr hclass]
      simp only [(get?_constructors_iff kind constructor).mpr hknown, hrefused]

lemma stages_eq_ok (index : ℕ) :
    registry.stages index specs = .ok stages ↔ List.Forall₂ registry.Builds specs stages := by
  induction specs generalizing index stages with
  | nil => simp [Registry.stages, eq_comm]
  | cons spec rest ih =>
    rw [Registry.stages, bind_eq_ok, List.forall₂_cons_left_iff]
    constructor
    · rintro ⟨first, hfirst, hrest⟩
      obtain ⟨others, hothers, heq⟩ := (bind_eq_ok _ _ _).mp hrest
      exact ⟨first, others, (stage_eq_ok index).mp hfirst, (ih (index + 1)).mp hothers,
        (Except.ok.inj heq).symm⟩
    · rintro ⟨first, others, hfirst, hothers, rfl⟩
      refine ⟨first, (stage_eq_ok index).mpr hfirst, (bind_eq_ok _ _ _).mpr ?_⟩
      exact ⟨others, (ih (index + 1)).mpr hothers, rfl⟩

lemma firstFault_cons (start : ℕ) (rest before : List StageSpec) (other : StageSpec) :
    FirstFault registry start (spec :: rest) before other e ↔
      (before = [] ∧ other = spec ∧ registry.Fault start spec e) ∨
      ∃ later stage, before = spec :: later ∧ registry.Builds spec stage ∧
        FirstFault registry (start + 1) rest later other e := by
  constructor
  · rintro ⟨⟨after, hsplit⟩, hbuilt, hfault⟩
    cases before with
    | nil =>
      obtain ⟨rfl, rfl⟩ := List.cons.inj hsplit
      exact Or.inl ⟨rfl, rfl, hfault⟩
    | cons first later =>
      obtain ⟨rfl, rfl⟩ := List.cons.inj hsplit
      obtain ⟨⟨stage, hstage⟩, hlater⟩ := List.forall_mem_cons.mp hbuilt
      have hindex : start + (spec :: later).length = start + 1 + later.length := by
        rw [List.length_cons]
        omega
      exact Or.inr ⟨later, stage, rfl, hstage, ⟨after, rfl⟩, hlater, hindex ▸ hfault⟩
  · rintro (⟨rfl, rfl, hfault⟩ | ⟨later, stage, rfl, hstage, ⟨after, rfl⟩, hlater, hfault⟩)
    · exact ⟨⟨rest, rfl⟩, List.forall_mem_nil _, hfault⟩
    · have hindex : start + 1 + later.length = start + (spec :: later).length := by
        rw [List.length_cons]
        omega
      exact ⟨⟨after, rfl⟩, List.forall_mem_cons.mpr ⟨⟨stage, hstage⟩, hlater⟩, hindex ▸ hfault⟩

lemma stages_eq_error (index : ℕ) : registry.stages index specs = .error e ↔
    ∃ before spec, FirstFault registry index specs before spec e := by
  induction specs generalizing index with
  | nil =>
    simp only [Registry.stages, reduceCtorEq, false_iff]
    rintro ⟨before, spec, ⟨after, hsplit⟩, -⟩
    simp at hsplit
  | cons spec rest ih =>
    simp only [Registry.stages, firstFault_cons, bind_eq_error, stage_eq_error, stage_eq_ok, ih]
    constructor
    · rintro (hfault | ⟨stage, hstage, ⟨before, other, hrest⟩ | ⟨others, -, hpure⟩⟩)
      · exact ⟨[], spec, Or.inl ⟨rfl, rfl, hfault⟩⟩
      · exact ⟨spec :: before, other, Or.inr ⟨before, stage, rfl, hstage, hrest⟩⟩
      · cases hpure
    · rintro ⟨before, other, ⟨-, -, hfault⟩ | ⟨later, stage, -, hstage, hrest⟩⟩
      · exact Or.inl hfault
      · exact Or.inr ⟨stage, hstage, Or.inl ⟨later, other, hrest⟩⟩

lemma carries_iff (content result : Content) :
    Carries stages content result ↔ runStages stages content = result := by
  constructor
  · intro h
    induction h with
    | nil content => rfl
    | cons stage content _ ih => exact ih
  · rintro rfl
    induction stages generalizing content with
    | nil => exact .nil content
    | cons stage rest ih => exact .cons stage content (ih (stage.apply content))

lemma run_eq_ok (content result : Content) : registry.run specs content = .ok result ↔
    ∃ stages, List.Forall₂ registry.Builds specs stages ∧ Carries stages content result := by
  simp only [run, ← stages_eq_ok 0, carries_iff]
  cases registry.stages 0 specs <;> simp [Except.map]

lemma run_eq_error (content : Content) : registry.run specs content = .error e ↔
    ∃ before spec, FirstFault registry 0 specs before spec e := by
  rw [← stages_eq_error, run]
  cases registry.stages 0 specs <;> simp [Except.map]

lemma exists_forall₂_builds :
    (∃ stages, List.Forall₂ registry.Builds specs stages) ↔
      ∀ spec ∈ specs, ∃ stage, registry.Builds spec stage := by
  induction specs with
  | nil => simp
  | cons spec rest ih =>
    simp only [List.forall₂_cons_left_iff, List.forall_mem_cons, ← ih]
    constructor
    · rintro ⟨_, first, others, hfirst, hothers, -⟩
      exact ⟨⟨first, hfirst⟩, others, hothers⟩
    · rintro ⟨⟨first, hfirst⟩, others, hothers⟩
      exact ⟨first :: others, first, others, hfirst, hothers, rfl⟩

lemma run_succeeds_iff (content : Content) : (∃ result, registry.run specs content = .ok result) ↔
    ∀ spec ∈ specs, ∃ stage, registry.Builds spec stage := by
  simp only [run_eq_ok, carries_iff, ← exists_forall₂_builds]
  constructor
  · rintro ⟨_, stages, hstages, -⟩
    exact ⟨stages, hstages⟩
  · rintro ⟨stages, hstages⟩
    exact ⟨_, stages, hstages, rfl⟩

lemma text_unclassed (index : ℕ) (spec : StageSpec) :
    (IntegrityFault.stageWithoutClass index spec.name?).text =
      "Preprocessor #" ++ toString index ++ " (" ++ spec.label ++
        ") has no 'class' configured." := by
  have hlabel : spec.name?.getD "unnamed" = spec.label := by
    simp only [StageSpec.name?, StageSpec.label]
    cases Entries.get? "name" spec.members with
    | none => rfl
    | some value => cases value <;> rfl
  rw [← hlabel]
  rfl

/-- A pipeline runs exactly if all of its steps can be built, and then the stages built from them
pass the content on in their order. Otherwise the first step that cannot be built is to blame, and
the error depends neither on the steps behind it nor on the content. -/
theorem run_verdict (registry : Registry) (specs : List StageSpec) :
    (∀ content, (∃ result, registry.run specs content = .ok result) ↔
      ∀ spec ∈ specs, ∃ stage, registry.Builds spec stage) ∧
    (∀ content result, registry.run specs content = .ok result ↔
      ∃ stages, List.Forall₂ registry.Builds specs stages ∧ Carries stages content result) ∧
    (∀ content e, registry.run specs content = .error e ↔
      ∃ before spec, FirstFault registry 0 specs before spec e) ∧
    (∀ (index : ℕ) (spec : StageSpec),
      (IntegrityFault.stageWithoutClass index spec.name?).text = "Preprocessor #" ++
        toString index ++ " (" ++ spec.label ++ ") has no 'class' configured.") ∧
    ∀ kind, (IntegrityFault.unknownClass kind).text =
      "Unknown preprocessor class '" ++ kind ++ "'." := by
  refine ⟨run_succeeds_iff, run_eq_ok, fun content _ => run_eq_error content, text_unclassed, ?_⟩
  exact fun _ => rfl

end Registry

end ContentHub
