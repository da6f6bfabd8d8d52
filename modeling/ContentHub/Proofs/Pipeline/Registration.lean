import ContentHub.Proofs.Pipeline.Composition
import ContentHub.Proofs.Text.Bytes
import Mathlib.Tactic

namespace ContentHub.Registry

abbrev Entry := String × StageConstructor

def registered (entries : List Entry) : Registry :=
  entries.foldl (fun registry entry => registry.register entry.1 entry.2) {}

def Final (entries : List Entry) (kind : String) (constructor : StageConstructor) : Prop :=
  ∃ before after, entries = before ++ (kind, constructor) :: after ∧
    ∀ entry ∈ after, entry.1 ≠ kind

variable {entries others : List Entry} {kind : String} {constructor : StageConstructor}

lemma constructors_registered (entries : List Entry) :
    (registered entries).constructors = Entries.ofList entries := by
  have general : ∀ registry : Registry,
      (entries.foldl (fun registry entry => registry.register entry.1 entry.2)
        registry).constructors = entries.foldl
          (fun sorted entry => Entries.insert entry.1 entry.2 sorted) registry.constructors := by
    induction entries with
    | nil => exact fun _ => rfl
    | cons entry rest ih => exact fun registry => ih _
  exact general {}

lemma get?_registered (entries : List Entry) (kind : String) (constructor : StageConstructor) :
    Entries.get? kind (registered entries).constructors = some constructor ↔
      Final entries kind constructor := by
  rw [constructors_registered, Entries.get?_ofList, Entries.get?_eq_some_iff_first]
  constructor
  · rintro ⟨before, after, hsplit, hbefore⟩
    refine ⟨after.reverse, before.reverse, ?_, by simpa using hbefore⟩
    rw [← List.reverse_reverse entries, hsplit]
    simp
  · rintro ⟨before, after, rfl, hafter⟩
    exact ⟨after.reverse, before.reverse, by simp, by simpa using hafter⟩

lemma kinds_ascend (registry : Registry) :
    registry.kinds.Pairwise fun kind other => Text.bytes kind < Text.bytes other :=
  ((Entries.sorted_iff_keys _).mp registry.sorted).imp Text.bytes_lt_of_lt

lemma stage_registered {spec : StageSpec} (index : ℕ)
    (hclass : Entries.get? "class" spec.members = some (.string kind))
    (h : Final entries kind constructor) :
    (registered entries).stage index spec = constructor spec := by
  have hknown := (get?_registered entries kind constructor).mpr h
  rw [stage, (class?_eq_some_iff kind).mpr hclass]
  simp only [hknown]

lemma eq_of_constructors {registry other : Registry}
    (h : registry.constructors = other.constructors) : registry = other := by
  cases registry
  cases other
  cases h
  rfl

lemma registered_congr (h : ∀ kind constructor,
    Final entries kind constructor ↔ Final others kind constructor) :
    registered entries = registered others := by
  apply eq_of_constructors
  apply Entries.eq_of_get? (registered entries).sorted (registered others).sorted
  intro kind
  apply Option.ext
  intro constructor
  rw [get?_registered, get?_registered, h]

/-- A registry lists what was registered, each kind once and in the order of the bytes. A step is
built by the constructor that was registered last for its class, and pipelines depend on nothing
else of what was registered. -/
theorem registered_final (entries : List Entry) :
    (∀ kind, kind ∈ (registered entries).kinds ↔ ∃ entry ∈ entries, entry.1 = kind) ∧
    (registered entries).kinds.Nodup ∧
    (registered entries).kinds.Pairwise (fun kind other => Text.bytes kind < Text.bytes other) ∧
    (∀ index spec kind constructor,
      Entries.get? "class" spec.members = some (.string kind) → Final entries kind constructor →
        (registered entries).stage index spec = constructor spec) ∧
    ∀ others : List Entry,
      (∀ kind constructor, Final entries kind constructor ↔ Final others kind constructor) →
        (registered entries).kinds = (registered others).kinds ∧
          ∀ specs content,
            (registered entries).run specs content = (registered others).run specs content := by
  refine ⟨fun kind => ?_, nodup_kinds _, kinds_ascend _, ?_, fun others h => ?_⟩
  · rw [kinds, constructors_registered, Entries.mem_keys_ofList]
  · exact fun index _ _ _ hclass h => stage_registered index hclass h
  · rw [registered_congr h]
    exact ⟨rfl, fun _ _ => rfl⟩

def adding (word : String) : StageConstructor :=
  fun _ => .ok (wordStage word)

def overwritten : List Entry :=
  [("b", adding "x"), ("a", adding "y"), ("b", adding "z")]

def rearranged : List Entry :=
  [("b", adding "z"), ("a", adding "x"), ("a", adding "y")]

def classSpec (kind : String) : StageSpec where
  members := [("class", .string kind)]

theorem registered_final_sample :
    (∀ kind constructor, Final overwritten kind constructor ↔ Final rearranged kind constructor) ∧
      (registered overwritten).kinds = ["a", "b"] ∧
      (registered overwritten).kinds = (registered rearranged).kinds ∧
      (registered overwritten).stage 0 (classSpec "b") = .ok (wordStage "z") ∧
      (registered rearranged).run [classSpec "b"] [] = .ok [("z", .null)] := by
  obtain ⟨-, -, -, hstage, hothers⟩ := registered_final overwritten
  have hsame : ∀ kind constructor,
      Final overwritten kind constructor ↔ Final rearranged kind constructor := by
    intro kind constructor
    rw [← get?_registered, ← get?_registered]
    rfl
  have hfinal : Final overwritten "b" (adding "z") :=
    ⟨[("b", adding "x"), ("a", adding "y")], [], rfl, List.forall_mem_nil _⟩
  obtain ⟨hkinds, hrun⟩ := hothers rearranged hsame
  refine ⟨hsame, rfl, hkinds, hstage 0 (classSpec "b") "b" _ rfl hfinal, ?_⟩
  rw [← hrun]
  rfl

end ContentHub.Registry
