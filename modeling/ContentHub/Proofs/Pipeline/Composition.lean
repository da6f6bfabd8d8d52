import ContentHub.Proofs.Pipeline
import Mathlib.Tactic

/-!
Pipelines put behind each other. The steps of both are built before the first one runs, and yet the
content comes out as if the second pipeline were run on what the first makes of it. A step without a
class is counted from the start of the whole pipeline, so its error is the only one that changes.
-/

namespace ContentHub.Registry

def Unclassed (spec : StageSpec) : Prop :=
  ∀ kind, Entries.get? "class" spec.members ≠ some (.string kind)

inductive Postponed (registry : Registry) (count : ℕ) (specs : List StageSpec) :
    Error → Error → Prop
  | unclassed (before : List StageSpec) (spec : StageSpec) (hclass : Unclassed spec)
      (hfirst : FirstFault registry 0 specs before spec
        (.integrity (.stageWithoutClass before.length spec.name?))) :
      Postponed registry count specs (.integrity (.stageWithoutClass before.length spec.name?))
        (.integrity (.stageWithoutClass (count + before.length) spec.name?))
  | other (before : List StageSpec) (spec : StageSpec) (e : Error) (hclass : ¬Unclassed spec)
      (hfirst : FirstFault registry 0 specs before spec e) : Postponed registry count specs e e

variable {registry : Registry} {one other : List StageSpec} {e later : Error}

lemma stages_append (index : ℕ) : registry.stages index (one ++ other) =
    registry.stages index one >>= fun first =>
      (registry.stages (index + one.length) other).map (first ++ ·) := by
  induction one generalizing index with
  | nil =>
    simp only [List.nil_append, stages, List.length_nil, Nat.add_zero]
    cases registry.stages index other <;> rfl
  | cons spec rest ih =>
    have hindex : index + (spec :: rest).length = index + 1 + rest.length := by
      rw [List.length_cons]
      omega
    simp only [List.cons_append, stages, ih, hindex]
    cases registry.stage index spec with
    | error e => rfl
    | ok first =>
      cases registry.stages (index + 1) rest with
      | error e => rfl
      | ok others => cases registry.stages (index + 1 + rest.length) other <;> rfl

lemma runStages_append (stages others : List Stage) (content : Content) :
    runStages (stages ++ others) content = runStages others (runStages stages content) := by
  rw [runStages, List.foldl_append]
  rfl

lemma run_ok_iff (specs : List StageSpec) (content result : Content) (index : ℕ) :
    registry.run specs content = .ok result ↔
      ∃ stages, registry.stages index specs = .ok stages ∧ runStages stages content = result := by
  simp only [run_eq_ok, stages_eq_ok, carries_iff]

lemma run_error_iff (specs : List StageSpec) (content : Content) (e : Error) :
    registry.run specs content = .error e ↔ registry.stages 0 specs = .error e := by
  rw [run, map_eq_error]

lemma postponed_of_firstFault {specs before : List StageSpec} {spec : StageSpec}
    (h : FirstFault registry 0 specs before spec e) (count : ℕ) :
    ∃ later, Postponed registry count specs e later ∧
      FirstFault registry count specs before spec later := by
  obtain ⟨hposition, hbuilt, hfault⟩ := h
  rw [Nat.zero_add] at hfault
  have hfirst : FirstFault registry 0 specs before spec e :=
    ⟨hposition, hbuilt, by rwa [Nat.zero_add]⟩
  cases hfault with
  | unclassed hclass =>
    exact ⟨_, .unclassed before spec hclass hfirst, hposition, hbuilt, .unclassed hclass⟩
  | unknown kind hclass hunknown =>
    exact ⟨_, .other before spec _ (fun h => h kind hclass) hfirst, hposition, hbuilt,
      .unknown kind hclass hunknown⟩
  | refused kind constructor e hclass hknown hrefused =>
    exact ⟨_, .other before spec _ (fun h => h kind hclass) hfirst, hposition, hbuilt,
      .refused kind constructor e hclass hknown hrefused⟩

lemma run_append_ok (content result : Content) :
    registry.run (one ++ other) content = .ok result ↔
      ∃ middle, registry.run one content = .ok middle ∧ registry.run other middle = .ok result := by
  simp only [run_ok_iff (one ++ other) content result 0, stages_append, Nat.zero_add, bind_eq_ok,
    map_eq_ok]
  constructor
  · rintro ⟨_, ⟨first, hfirst, others, hothers, rfl⟩, rfl⟩
    refine ⟨runStages first content, (run_ok_iff one _ _ 0).mpr ⟨first, hfirst, rfl⟩, ?_⟩
    rw [runStages_append]
    exact (run_ok_iff other _ _ one.length).mpr ⟨others, hothers, rfl⟩
  · rintro ⟨middle, hmiddle, hresult⟩
    obtain ⟨first, hfirst, rfl⟩ := (run_ok_iff one _ _ 0).mp hmiddle
    obtain ⟨others, hothers, rfl⟩ := (run_ok_iff other _ _ one.length).mp hresult
    exact ⟨first ++ others, ⟨first, hfirst, others, hothers, rfl⟩, runStages_append _ _ _⟩

lemma run_append_error {content : Content} (h : registry.run one content = .error e) :
    registry.run (one ++ other) content = .error e := by
  rw [run_error_iff] at h ⊢
  rw [stages_append, bind_eq_error]
  exact Or.inl h

lemma run_append_postponed {content middle : Content}
    (hone : registry.run one content = .ok middle) (hother : registry.run other middle = .error e) :
    ∃ later, Postponed registry one.length other e later ∧
      registry.run (one ++ other) content = .error later := by
  obtain ⟨before, spec, hfirst⟩ := (run_eq_error middle).mp hother
  obtain ⟨later, hlater, hmoved⟩ := postponed_of_firstFault hfirst one.length
  refine ⟨later, hlater, ?_⟩
  obtain ⟨first, hbuilt, -⟩ := (run_ok_iff one _ _ 0).mp hone
  rw [run_error_iff, stages_append, bind_eq_error, Nat.zero_add]
  refine Or.inr ⟨first, hbuilt, ?_⟩
  rw [map_eq_error, stages_eq_error]
  exact ⟨before, spec, hmoved⟩

/-- Two pipelines one behind the other do what the second does with the content that the first
makes. The first error is that of the pipeline it belongs to, and only a step without a class is
counted anew. -/
theorem run_append (registry : Registry) (one other : List StageSpec) :
    (∀ content result, registry.run (one ++ other) content = .ok result ↔
      ∃ middle, registry.run one content = .ok middle ∧
        registry.run other middle = .ok result) ∧
    (∀ content e, registry.run one content = .error e →
      registry.run (one ++ other) content = .error e) ∧
    (∀ content middle e, registry.run one content = .ok middle →
      registry.run other middle = .error e → ∃ later, Postponed registry one.length other e later ∧
        registry.run (one ++ other) content = .error later) ∧
    (∀ specs content changed e,
      registry.run specs content = .error e ↔ registry.run specs changed = .error e) ∧
    ∀ (index : ℕ) (spec : StageSpec),
      (IntegrityFault.stageWithoutClass index spec.name?).text = "Preprocessor #" ++
        toString index ++ " (" ++ spec.label ++ ") has no 'class' configured." := by
  refine ⟨run_append_ok, fun _ _ => run_append_error, fun _ _ _ => run_append_postponed, ?_,
    text_unclassed⟩
  intro specs content changed e
  rw [run_error_iff, run_error_iff]

def wordStage (word : String) : Stage where
  name := word
  apply := Entries.insert word .null

def stamping : Registry :=
  Registry.register "stamp" (fun spec => .ok (wordStage spec.label)) {}

def stampSpec (name : String) : StageSpec where
  members := [("class", .string "stamp"), ("name", .string name)]

def namedSpec (name : String) : StageSpec where
  members := [("name", .string name)]

theorem run_append_sample :
    stamping.run [stampSpec "b", stampSpec "a"] [] = .ok [("a", .null), ("b", .null)] ∧
      stamping.run [namedSpec "c", stampSpec "a"] [] =
        .error (.integrity (.stageWithoutClass 0 (some "c"))) ∧
      ∃ later, Postponed stamping 1 [stampSpec "a", namedSpec "c"]
          (.integrity (.stageWithoutClass 1 (some "c"))) later ∧
        stamping.run [stampSpec "b", stampSpec "a", namedSpec "c"] [] = .error later := by
  obtain ⟨hok, -, -, -, -⟩ := run_append stamping [stampSpec "b"] [stampSpec "a"]
  obtain ⟨-, hfirst, -, -, -⟩ := run_append stamping [namedSpec "c"] [stampSpec "a"]
  obtain ⟨-, -, hsecond, -, -⟩ := run_append stamping [stampSpec "b"] [stampSpec "a", namedSpec "c"]
  refine ⟨(hok _ _).mpr ⟨[("b", .null)], by rfl, by rfl⟩, hfirst _ _ (by rfl), ?_⟩
  exact hsecond _ [("b", .null)] _ (by rfl) (by rfl)

end ContentHub.Registry
