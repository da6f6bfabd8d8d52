import ContentHub.Proofs.Store.Walk
import Mathlib.Data.List.TakeWhile
import Mathlib.Tactic

namespace ContentHub.Store

inductive Labels : List Char → List (List Char) → Prop
  | nil : Labels [] []
  | cons {label rest : List Char} {labels : List (List Char)} (hlabel : '"' ∉ label)
      (hrest : Labels rest labels) : Labels ('.' :: '"' :: label ++ '"' :: rest) (label :: labels)

inductive Labelled : List Char → List (List Char) → Prop
  | root {steps : List Char} {labels : List (List Char)} (h : Labels steps labels) :
      Labelled ('$' :: steps) labels

lemma labelSteps_of_labels {s : List Char} {labels : List (List Char)} (h : Labels s labels) :
    labelSteps s = labels.map .member := by
  induction h with
  | nil => simp [labelSteps]
  | @cons label rest labels hlabel _ ih =>
    have hstep := labelSteps_quotedLabel (String.ofList label) rest (by simpa using hlabel)
    simpa [quotedLabel, ih] using hstep

lemma eq_takeWhile_append {s : List Char} (h : (s.takeWhile (· ≠ '"')).length < s.length) :
    s = s.takeWhile (· ≠ '"') ++ '"' :: s.drop ((s.takeWhile (· ≠ '"')).length + 1) := by
  induction s with
  | nil => simp at h
  | cons c rest ih =>
    by_cases hc : c = '"'
    · simp [hc]
    · simp only [List.takeWhile_cons, ne_eq, hc, not_false_eq_true, decide_true, if_true,
        List.length_cons, Nat.add_lt_add_iff_right] at h
      simpa [hc] using ih h

lemma labels_of_labelSteps {s : List Char} {labels : List (List Char)}
    (h : labelSteps s = labels.map .member) : Labels s labels := by
  fun_induction labelSteps s generalizing labels with
  | case1 =>
    obtain rfl := List.map_eq_nil_iff.mp h.symm
    exact .nil
  | case2 rest label hshort =>
    rename_i ih
    obtain ⟨first, others, rfl, hfirst, hothers⟩ := List.map_eq_cons_iff.mp h.symm
    obtain rfl : first = label := Step.member.inj hfirst
    have hlabel : '"' ∉ label := fun hmem => by simpa using List.mem_takeWhile_imp hmem
    have hlabels := Labels.cons hlabel (ih hothers.symm)
    rwa [List.cons_append, List.cons_append, ← eq_takeWhile_append hshort] at hlabels
  | case3 | case4 =>
    -- a broken step is no label
    obtain ⟨first, others, -, hfirst, -⟩ := List.map_eq_cons_iff.mp h.symm
    cases hfirst

lemma pathSteps_eq_iff (text : List Char) (labels : List (List Char)) :
    pathSteps text = labels.map .member ↔ Labelled text labels := by
  constructor
  · intro h
    unfold pathSteps at h
    split at h
    · exact .root (labels_of_labelSteps h)
    · obtain ⟨first, others, -, hfirst, -⟩ := List.map_eq_cons_iff.mp h.symm
      cases hfirst
  · rintro ⟨h⟩
    exact labelSteps_of_labels h

lemma Labelled.unique {text : List Char} {labels others : List (List Char)}
    (h : Labelled text labels) (ho : Labelled text others) : labels = others := by
  rw [← pathSteps_eq_iff] at h ho
  exact List.map_injective_iff.mpr (fun _ _ => Step.member.inj) (h.symm.trans ho)

lemma labels_keys_iff (path : Path) (s : List Char) :
    Labels s (path.map String.toList) ↔
      path.quoting = false ∧ s = path.flatMap quotedLabel := by
  induction path generalizing s with
  | nil =>
    constructor
    · rintro ⟨⟩
      exact ⟨rfl, rfl⟩
    · rintro ⟨-, rfl⟩
      exact .nil
  | cons key rest ih =>
    have hquoting : Path.quoting (key :: rest) = false ↔
        '"' ∉ key.toList ∧ Path.quoting rest = false := by
      simp [Path.quoting]
    rw [hquoting, List.map_cons, List.flatMap_cons]
    constructor
    · rintro (_ | ⟨hkey, hlabels⟩)
      obtain ⟨hrest, rfl⟩ := (ih _).mp hlabels
      exact ⟨⟨hkey, hrest⟩, by simp [quotedLabel]⟩
    · rintro ⟨⟨hkey, hrest⟩, rfl⟩
      simpa [quotedLabel] using Labels.cons hkey ((ih _).mpr ⟨hrest, rfl⟩)

lemma pathText?_eq_some_iff (path : Path) (text : List Char) :
    pathText? path = some text ↔ Labelled text (path.map String.toList) := by
  rw [pathText?_eq]
  constructor
  · intro h
    split at h
    · cases h
    · next hquoting =>
      obtain rfl := Option.some.inj h
      exact .root ((labels_keys_iff path _).mpr ⟨Bool.eq_false_of_not_eq_true hquoting, rfl⟩)
  · rintro ⟨h⟩
    obtain ⟨hquoting, rfl⟩ := (labels_keys_iff path _).mp h
    simp [hquoting]

lemma pathText?_eq_none_iff (path : Path) :
    pathText? path = none ↔ ∃ key ∈ path, '"' ∈ key.toList := by
  simp [pathText?_eq, Path.quoting]

/-- A path is written unless a key holds a quotation mark. Its keys are all the labels of the
written text, in their order and number, so no other path is written like it. -/
theorem pathText?_faithful (path : Path) :
    (pathText? path = none ↔ ∃ key ∈ path, '"' ∈ key.toList) ∧
      ∀ text, pathText? path = some text →
        (∀ labels, Labelled text labels ↔ labels = path.map String.toList) ∧
        pathSteps text = path.map (fun key => .member key.toList) ∧
        ∀ other, pathText? other = some text → other = path := by
  refine ⟨pathText?_eq_none_iff path, fun text h => ?_⟩
  have hkeys := (pathText?_eq_some_iff path text).mp h
  refine ⟨fun labels => ⟨fun hlabels => hlabels.unique hkeys, ?_⟩, ?_, fun other ho => ?_⟩
  · rintro rfl
    exact hkeys
  · rw [(pathSteps_eq_iff _ _).mpr hkeys, List.map_map]
    rfl
  · have hother := (pathText?_eq_some_iff other text).mp ho
    exact List.map_injective_iff.mpr (fun _ _ => String.toList_inj.mp) (hother.unique hkeys)

theorem pathText?_faithful_sample :
    pathText? ["a.b", "", "$[0] \\", "x\"y"] = none ∧
      pathText? ["a.b", "", "$[0] \\"] = some "$.\"a.b\".\"\".\"$[0] \\\"".toList ∧
      ∀ labels, Labelled "$.\"a.b\".\"\".\"$[0] \\\"".toList labels ↔
        labels = ["a.b".toList, [], "$[0] \\".toList] := by
  have hwritten : pathText? ["a.b", "", "$[0] \\"] = some "$.\"a.b\".\"\".\"$[0] \\\"".toList := by
    decide
  refine ⟨(pathText?_faithful _).1.mpr ⟨"x\"y", by simp, by decide⟩, hwritten, ?_⟩
  exact ((pathText?_faithful ["a.b", "", "$[0] \\"]).2 _ hwritten).1

end ContentHub.Store
