import ContentHub.Proofs.Provider.Document
import Mathlib.Tactic

/-!
The shape of accepted documents. A document is accepted exactly if every field at every level is
absent, null or of its kind, where a type and an index may be objects or arrays of their fields.
Everything else is refused as broken configuration.
-/

namespace ContentHub

def IsText (value : Json) : Prop :=
  ∃ s, value = .string s

def IsFlag (value : Json) : Prop :=
  ∃ b, value = .bool b

def IsStageList (value : Json) : Prop :=
  ∃ items, value = .array items ∧ ∀ item ∈ items, ∃ members, item = .object members

structure IndexShape (value : Json) : Prop where
  object : ∃ members, value = .object members
  name : ∃ s, value.member? "name" = some (.string s)
  kind : ∃ s, value.member? "type" = some (.string s)

structure TypeShape (index : Json → Prop) (value : Json) : Prop where
  object : ∃ members, value = .object members
  tag : Omittable IsText (value.member? "dcp_type")
  index : Omittable index (value.member? "index")
  stages : Omittable IsStageList (value.member? "input_preprocessors")

structure DocumentShape (type : Json → Prop) (document : Json) : Prop where
  object : ∃ members, document = .object members
  name : ∃ s, document.member? "name" = some (.string s)
  passwordHash : Omittable IsText (document.member? "pwd_hash")
  superProvider : Omittable IsFlag (document.member? "super_provider")
  types : Omittable
    (fun value => ∃ members, value = .object members ∧ ∀ member ∈ members, type member.2)
    (document.member? "type")

def ListedIndex (value : Json) : Prop :=
  ∃ name kind, value = .array [.string name, .string kind]

def AnyIndex (value : Json) : Prop :=
  IndexShape value ∨ ListedIndex value

def ListedType (value : Json) : Prop :=
  ∃ items, value = .array items ∧ items.length ≤ 3 ∧ Omittable IsText items[0]? ∧
    Omittable AnyIndex items[1]? ∧ Omittable IsStageList items[2]?

def AnyType (value : Json) : Prop :=
  TypeShape AnyIndex value ∨ ListedType value

def Unlisted (document : Json) : Prop :=
  ∀ members, document.member? "type" = some (.object members) → ∀ member ∈ members,
    (∀ items, member.2 ≠ .array items) ∧ ∀ items, member.2.member? "index" ≠ some (.array items)

lemma Omittable.congr {good other : Json → Prop} {value : Option Json}
    (h : ∀ given, value = some given → (good given ↔ other given)) :
    Omittable good value ↔ Omittable other value := by
  apply forall_congr'
  intro given
  apply forall_congr'
  intro hgiven
  rw [h given hgiven]

lemma exists_forall₂_iff {α β : Type} (related : α → β → Prop) (xs : List α) :
    (∃ ys, List.Forall₂ related xs ys) ↔ ∀ x ∈ xs, ∃ y, related x y := by
  induction xs with
  | nil => simp
  | cons x rest ih =>
    rw [List.forall_mem_cons, ← ih]
    constructor
    · rintro ⟨_, _ | ⟨hx, hrest⟩⟩
      exact ⟨⟨_, hx⟩, _, hrest⟩
    · rintro ⟨⟨y, hy⟩, ys, hrest⟩
      exact ⟨y :: ys, .cons hy hrest⟩

lemma exists_stands_option_iff {α : Type} (good : Json → α → Prop) (value : Option Json) :
    (∃ x : Option α, Stands (fun given x => ∃ y ∈ x, good given y) none value x) ↔
      Omittable (fun given => ∃ y, good given y) value := by
  rw [exists_stands_iff]
  refine Omittable.congr fun given _ => ⟨?_, ?_⟩
  · rintro ⟨_, y, -, hy⟩
    exact ⟨y, hy⟩
  · rintro ⟨y, hy⟩
    exact ⟨some y, y, rfl, hy⟩

lemma exists_stages_iff (value : Json) :
    (∃ specs : List StageSpec, value = .array (specs.map fun spec => .object spec.members)) ↔
      IsStageList value := by
  constructor
  · rintro ⟨specs, rfl⟩
    refine ⟨_, rfl, ?_⟩
    intro item hitem
    obtain ⟨spec, -, rfl⟩ := List.mem_map.mp hitem
    exact ⟨spec.members, rfl⟩
  · rintro ⟨items, rfl, hitems⟩
    have hspecs : ∀ item ∈ items, ∃ spec : StageSpec, item = .object spec.members := by
      intro item hitem
      obtain ⟨members, rfl⟩ := hitems item hitem
      exact ⟨⟨members⟩, rfl⟩
    obtain ⟨specs, hspecs⟩ := (exists_forall₂_iff _ items).mpr hspecs
    refine ⟨specs, congrArg _ ?_⟩
    rwa [← List.forall₂_eq_eq_eq, List.forall₂_map_right_iff]

lemma exists_index_iff (value : Json) :
    (∃ index, SearchIndex.Written value index) ↔ AnyIndex value := by
  constructor
  · rintro ⟨index, ⟨hname, hkind⟩ | _⟩
    · exact Or.inl ⟨⟨_, rfl⟩, ⟨_, hname⟩, ⟨_, hkind⟩⟩
    · exact Or.inr ⟨_, _, rfl⟩
  · rintro (⟨⟨members, rfl⟩, ⟨name, hname⟩, ⟨kind, hkind⟩⟩ | ⟨name, kind, rfl⟩)
    · exact ⟨⟨name, kind⟩, .keyed hname hkind⟩
    · exact ⟨⟨name, kind⟩, .listed ⟨name, kind⟩⟩

namespace ContentType

lemma exists_told_iff (id : String) (tag index stages : Option Json) :
    (∃ type : ContentType, type.id = id ∧ Told tag index stages type) ↔
      Omittable IsText tag ∧ Omittable AnyIndex index ∧ Omittable IsStageList stages := by
  have htag := exists_stands_option_iff (fun value s => value = .string s) tag
  have hindex := exists_stands_option_iff SearchIndex.Written index
  have hstages := exists_stands_iff (fun value (specs : List StageSpec) =>
    value = .array (specs.map fun spec => .object spec.members)) [] stages
  simp only [exists_index_iff] at hindex
  simp only [exists_stages_iff] at hstages
  rw [show Omittable IsText tag ↔ _ from htag.symm, ← hindex, ← hstages]
  constructor
  · rintro ⟨type, -, h⟩
    exact ⟨⟨_, h.tag⟩, ⟨_, h.index⟩, ⟨_, h.stages⟩⟩
  · rintro ⟨⟨tag, htag⟩, ⟨index, hindex⟩, ⟨stages, hstages⟩⟩
    exact ⟨⟨id, tag, index, stages⟩, rfl, htag, hindex, hstages⟩

lemma exists_written_iff (id : String) (value : Json) :
    (∃ type, Written id value type) ↔ AnyType value := by
  constructor
  · rintro ⟨type, ⟨hid, h⟩ | ⟨hid, hlength, h⟩⟩
    · obtain ⟨htag, hindex, hstages⟩ := (exists_told_iff id _ _ _).mp ⟨type, hid, h⟩
      exact Or.inl ⟨⟨_, rfl⟩, htag, hindex, hstages⟩
    · exact Or.inr ⟨_, rfl, hlength, (exists_told_iff id _ _ _).mp ⟨type, hid, h⟩⟩
  · rintro (⟨⟨members, rfl⟩, htag, hindex, hstages⟩ | ⟨items, rfl, hlength, hfields⟩)
    · obtain ⟨type, hid, h⟩ := (exists_told_iff id _ _ _).mpr ⟨htag, hindex, hstages⟩
      exact ⟨type, .keyed hid h⟩
    · obtain ⟨type, hid, h⟩ := (exists_told_iff id _ _ _).mpr hfields
      exact ⟨type, .listed hid hlength h⟩

lemma exists_allWritten_iff (value : Json) : (∃ types, AllWritten value types) ↔
    ∃ members, value = .object members ∧ ∀ member ∈ members, AnyType member.2 := by
  have hentry : ∀ member : String × Json, (∃ entry : String × ContentType,
      entry.1 = member.1 ∧ Written member.1 member.2 entry.2) ↔ AnyType member.2 := by
    intro member
    rw [← exists_written_iff member.1]
    constructor
    · rintro ⟨entry, -, h⟩
      exact ⟨_, h⟩
    · rintro ⟨type, h⟩
      exact ⟨(member.1, type), rfl, h⟩
  simp only [AllWritten, ← hentry, ← exists_forall₂_iff, exists_and_left,
    exists_comm (α := Entries ContentType)]

end ContentType

lemma accepted_iff (document : Json) :
    (∃ provider, Provider.ofDocument document = .ok provider) ↔ DocumentShape AnyType document := by
  have hhash := exists_stands_option_iff (fun value s => value = .string s)
    (document.member? "pwd_hash")
  have hsuper := exists_stands_option_iff (fun value b => value = .bool b)
    (document.member? "super_provider")
  have htypes := exists_stands_iff ContentType.AllWritten [] (document.member? "type")
  simp only [ContentType.exists_allWritten_iff] at htypes
  simp only [Provider.ofDocument_eq_ok]
  constructor
  · rintro ⟨provider, h⟩
    have hobject : ∃ members, document = .object members := by
      cases document with
      | object members => exact ⟨members, rfl⟩
      | null | bool | number | string | array => cases h.name
    exact ⟨hobject, ⟨_, h.name⟩, hhash.mp ⟨_, h.passwordHash⟩, hsuper.mp ⟨_, h.superProvider⟩,
      htypes.mp ⟨_, h.types⟩⟩
  · rintro ⟨-, ⟨name, hname⟩, hash, super, types⟩
    obtain ⟨hash, hhash⟩ := hhash.mpr hash
    obtain ⟨super, hsuper⟩ := hsuper.mpr super
    obtain ⟨types, htypes⟩ := htypes.mpr types
    exact ⟨⟨name, hash, super, types⟩, hname, hhash, hsuper, htypes⟩

lemma indexShape_iff (value : Json) :
    IndexShape value ↔ AnyIndex value ∧ ∀ items, value ≠ .array items := by
  constructor
  · intro h
    refine ⟨Or.inl h, ?_⟩
    rintro items rfl
    obtain ⟨_, hobject⟩ := h.object
    cases hobject
  · rintro ⟨h | ⟨_, _, rfl⟩, hlisted⟩
    · exact h
    · exact absurd rfl (hlisted _)

lemma typeShape_iff (value : Json) :
    TypeShape IndexShape value ↔ AnyType value ∧ (∀ items, value ≠ .array items) ∧
      ∀ items, value.member? "index" ≠ some (.array items) := by
  constructor
  · intro h
    refine ⟨Or.inl ⟨h.object, h.tag, fun given hgiven => ?_, h.stages⟩, ?_, ?_⟩
    · exact (h.index given hgiven).imp_right Or.inl
    · rintro items rfl
      obtain ⟨_, hobject⟩ := h.object
      cases hobject
    · intro items hitems
      rcases h.index _ hitems with hnull | hindex
      · cases hnull
      · exact ((indexShape_iff _).mp hindex).2 items rfl
  · rintro ⟨h | ⟨items, rfl, -⟩, hlisted, hindex⟩
    · refine ⟨h.object, h.tag, fun given hgiven => ?_, h.stages⟩
      refine (h.index given hgiven).imp_right fun hany => (indexShape_iff given).mpr ⟨hany, ?_⟩
      rintro items rfl
      exact hindex items hgiven
    · exact absurd rfl (hlisted items)

lemma documentShape_iff (document : Json) :
    DocumentShape (TypeShape IndexShape) document ↔
      DocumentShape AnyType document ∧ Unlisted document := by
  simp only [show TypeShape IndexShape = _ from funext fun value => propext (typeShape_iff value)]
  constructor
  · intro h
    refine ⟨{ h with types := fun given hgiven => (h.types given hgiven).imp_right ?_ }, ?_⟩
    · rintro ⟨members, rfl, htypes⟩
      exact ⟨members, rfl, fun member hmember => (htypes member hmember).1⟩
    · intro members hmembers member hmember
      obtain hnull | ⟨_, hsame, htypes⟩ := h.types _ hmembers
      · cases hnull
      · obtain rfl := Json.object.inj hsame
        exact (htypes member hmember).2
  · rintro ⟨h, hunlisted⟩
    refine { h with types := fun given hgiven => (h.types given hgiven).imp_right ?_ }
    rintro ⟨members, rfl, htypes⟩
    exact ⟨members, rfl, fun member hmember =>
      ⟨htypes member hmember, hunlisted members hgiven member hmember⟩⟩

/-- What is accepted, and what of it has the shape without arrays; all else is broken
configuration. -/
theorem ofDocument_shape (document : Json) :
    ((∃ provider, Provider.ofDocument document = .ok provider) ↔
        DocumentShape AnyType document) ∧
      (DocumentShape (TypeShape IndexShape) document ↔
        (∃ provider, Provider.ofDocument document = .ok provider) ∧ Unlisted document) ∧
      ((∃ fault, Provider.ofDocument document = .error (.integrity fault)) ↔
        ¬DocumentShape AnyType document) := by
  refine ⟨accepted_iff document, ?_, ?_⟩
  · rw [accepted_iff, documentShape_iff]
  · rw [← accepted_iff]
    cases hresult : Provider.ofDocument document with
    | ok provider => simp
    | error e =>
      obtain ⟨fault, rfl⟩ := Provider.ofDocument_error document e hresult
      simp

section Samples

def listedDocument : Json :=
  .object [("name", .string "press"), ("type", .object [("essay",
    .array [.string "news", .array [.string "texts", .string "essay"]])])]

theorem listed_type_accepted :
    Provider.ofDocument listedDocument = .ok ⟨"press", none, none,
        [("essay", ⟨"essay", some "news", some ⟨"texts", "essay"⟩, []⟩)]⟩ ∧
      ¬DocumentShape (TypeShape IndexShape) listedDocument := by
  refine ⟨by decide, ?_⟩
  intro h
  obtain hnull | ⟨members, hmembers, htypes⟩ := h.types (.object [("essay",
    .array [.string "news", .array [.string "texts", .string "essay"]])]) (by decide)
  · cases hnull
  · obtain rfl := Json.object.inj hmembers
    obtain ⟨_, hobject⟩ := (htypes _ List.mem_cons_self).object
    cases hobject

end Samples

end ContentHub
