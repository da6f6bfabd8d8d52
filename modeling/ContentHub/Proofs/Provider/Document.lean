import ContentHub.Proofs.Json.Shape
import ContentHub.Provider.Document
import Mathlib.Tactic

namespace ContentHub

open Shape

inductive SearchIndex.Written : Json → SearchIndex → Prop
  | keyed {members : List (String × Json)} {index : SearchIndex}
      (hname : Entries.get? "name" members = some (.string index.name))
      (hkind : Entries.get? "type" members = some (.string index.kind)) :
      Written (.object members) index
  | listed (index : SearchIndex) : Written (.array [.string index.name, .string index.kind]) index

lemma SearchIndex.keyed_eq_ok (find : String → Option Json) (index : SearchIndex) :
    SearchIndex.record.keyed find = .ok index ↔
      find "name" = some (.string index.name) ∧ find "type" = some (.string index.kind) := by
  simp only [SearchIndex.record, Keyed.bind_eq_ok, Keyed.required_eq_ok, Keyed.pure_eq_ok]
  constructor
  · rintro ⟨_, hname, _, hkind, name, rfl, kind, rfl, rfl⟩
    obtain ⟨_, hname, htext⟩ := (Keyed.field?_eq_some _ _ _ _).mp hname
    obtain ⟨_, hkind, htext'⟩ := (Keyed.field?_eq_some _ _ _ _).mp hkind
    exact ⟨(text_eq_ok _ _).mp htext ▸ hname, (text_eq_ok _ _).mp htext' ▸ hkind⟩
  · rintro ⟨hname, hkind⟩
    exact ⟨some index.name, (Keyed.field?_eq_some _ _ _ _).mpr ⟨_, hname, rfl⟩, some index.kind,
      (Keyed.field?_eq_some _ _ _ _).mpr ⟨_, hkind, rfl⟩, _, rfl, _, rfl, rfl⟩

lemma SearchIndex.listed_eq_ok (items : List Json) (index : SearchIndex) :
    SearchIndex.record.listed items = .ok (index, []) ↔
      items = [.string index.name, .string index.kind] := by
  simp only [SearchIndex.record, Listed.bind_eq_ok, Listed.pure_eq_ok, Listed.next_eq_ok,
    text_eq_ok]
  constructor
  · rintro ⟨name, _, ⟨_, rfl, rfl⟩, kind, _, ⟨_, rfl, rfl⟩, hresult⟩
    obtain ⟨rfl, rfl⟩ := Prod.mk.inj hresult
    rfl
  · rintro rfl
    exact ⟨_, _, ⟨_, rfl, rfl⟩, _, _, ⟨_, rfl, rfl⟩, rfl⟩

lemma SearchIndex.read_eq_ok (value : Json) (index : SearchIndex) :
    SearchIndex.record.read value = .ok index ↔ SearchIndex.Written value index := by
  simp only [Record.read_eq_ok, SearchIndex.keyed_eq_ok, SearchIndex.listed_eq_ok]
  constructor
  · rintro (⟨members, rfl, hname, hkind⟩ | ⟨_, rfl, rfl⟩)
    · exact .keyed hname hkind
    · exact .listed index
  · rintro (⟨hname, hkind⟩ | _)
    · exact Or.inl ⟨_, rfl, hname, hkind⟩
    · exact Or.inr ⟨_, rfl, rfl⟩

lemma stageSpecs_eq_ok (value : Json) (specs : List StageSpec) :
    stageSpecs value = .ok specs ↔
      value = .array (specs.map fun spec => .object spec.members) := by
  have hspec : ∀ (item : Json) (spec : StageSpec),
      StageSpec.ofJson item = .ok spec ↔ item = .object spec.members := by
    rintro item ⟨members⟩
    cases item <;> simp [StageSpec.ofJson, Shape.members, Except.map]
  exact list_eq_ok_map hspec value specs

namespace ContentType

structure Told (tag index stages : Option Json) (type : ContentType) : Prop where
  tag : Stands (fun value x => ∃ s ∈ x, value = .string s) none tag type.tag
  index : Stands (fun value x => ∃ y ∈ x, SearchIndex.Written value y) none index type.index
  stages : Stands (fun value specs => value = .array (specs.map fun spec => .object spec.members))
    [] stages type.stages

inductive Written (id : String) : Json → ContentType → Prop
  | keyed {members : List (String × Json)} {type : ContentType} (hid : type.id = id)
      (h : Told (Entries.get? "dcp_type" members) (Entries.get? "index" members)
        (Entries.get? "input_preprocessors" members) type) : Written id (.object members) type
  | listed {items : List Json} {type : ContentType} (hid : type.id = id)
      (hlength : items.length ≤ 3) (h : Told items[0]? items[1]? items[2]? type) :
      Written id (.array items) type

lemma optionalText_eq_ok (value : Json) (x : Option String) : optional text value = .ok x ↔
    Stands (fun value x => ∃ s ∈ x, value = .string s) none (some value) x := by
  simp only [optional_eq_ok, text_eq_ok]

lemma optionalIndex_eq_ok (value : Json) (x : Option SearchIndex) :
    optional SearchIndex.record.read value = .ok x ↔
      Stands (fun value x => ∃ y ∈ x, SearchIndex.Written value y) none (some value) x := by
  simp only [optional_eq_ok, SearchIndex.read_eq_ok]

lemma orEmptyStages_eq_ok (value : Json) (specs : List StageSpec) :
    orEmpty [] stageSpecs value = .ok specs ↔
      Stands (fun value specs => value = .array (specs.map fun spec => .object spec.members))
        [] (some value) specs := by
  simp only [orEmpty_eq_ok, stageSpecs_eq_ok]

lemma keyed_eq_ok (id : String) (find : String → Option Json) (type : ContentType) :
    (record id).keyed find = .ok type ↔
      type.id = id ∧ Told (find "dcp_type") (find "index") (find "input_preprocessors") type := by
  simp only [record, Keyed.bind_eq_ok, Keyed.pure_eq_ok]
  constructor
  · rintro ⟨tag, htag, index, hindex, stages, hstages, rfl⟩
    exact ⟨rfl, (Keyed.field?_stands optionalText_eq_ok _ _).mp ⟨tag, htag, by cases tag <;> rfl⟩,
      (Keyed.field?_stands optionalIndex_eq_ok _ _).mp ⟨index, hindex, by cases index <;> rfl⟩,
      (Keyed.field?_stands orEmptyStages_eq_ok _ _).mp ⟨stages, hstages, rfl⟩⟩
  · rintro ⟨rfl, htag, hindex, hstages⟩
    obtain ⟨tag, htag, htype⟩ := (Keyed.field?_stands optionalText_eq_ok _ _).mpr htag
    obtain ⟨index, hindex, htype'⟩ := (Keyed.field?_stands optionalIndex_eq_ok _ _).mpr hindex
    obtain ⟨stages, hstages, htype''⟩ := (Keyed.field?_stands orEmptyStages_eq_ok _ _).mpr hstages
    refine ⟨tag, htag, index, hindex, stages, hstages, ?_⟩
    cases type
    cases tag <;> cases index <;> simp_all

lemma listed_eq_ok (id : String) (items : List Json) (type : ContentType) :
    (record id).listed items = .ok (type, []) ↔
      type.id = id ∧ items.length ≤ 3 ∧ Told items[0]? items[1]? items[2]? type := by
  simp only [record, Listed.bind_eq_ok, Listed.pure_eq_ok, Listed.next_stands optionalText_eq_ok,
    Listed.next_stands optionalIndex_eq_ok, Listed.next_stands orEmptyStages_eq_ok]
  have hrest : items.tail.tail.tail = [] ↔ items.length ≤ 3 := by
    rw [← List.length_eq_zero_iff]
    simp
    omega
  constructor
  · rintro ⟨tag, _, ⟨htag, rfl⟩, index, _, ⟨hindex, rfl⟩, stages, _, ⟨hstages, rfl⟩, hresult⟩
    obtain ⟨rfl, hnil⟩ := Prod.mk.inj hresult
    refine ⟨rfl, hrest.mp hnil.symm, ?_, ?_, ?_⟩
    · simpa [List.head?_eq_getElem?] using htag
    · simpa [List.head?_eq_getElem?] using hindex
    · simpa [List.head?_eq_getElem?] using hstages
  · rintro ⟨rfl, hlength, htag, hindex, hstages⟩
    refine ⟨type.tag, _, ⟨?_, rfl⟩, type.index, _, ⟨?_, rfl⟩, type.stages, _, ⟨?_, rfl⟩, ?_⟩
    · simpa [List.head?_eq_getElem?] using htag
    · simpa [List.head?_eq_getElem?] using hindex
    · simpa [List.head?_eq_getElem?] using hstages
    · rw [hrest.mpr hlength]

lemma read_eq_ok (id : String) (value : Json) (type : ContentType) :
    (record id).read value = .ok type ↔ Written id value type := by
  simp only [Record.read_eq_ok, keyed_eq_ok, listed_eq_ok]
  constructor
  · rintro (⟨members, rfl, hid, h⟩ | ⟨items, rfl, hid, hlength, h⟩)
    · exact .keyed hid h
    · exact .listed hid hlength h
  · rintro (⟨hid, h⟩ | ⟨hid, hlength, h⟩)
    · exact Or.inl ⟨_, rfl, hid, h⟩
    · exact Or.inr ⟨_, rfl, hid, hlength, h⟩

def AllWritten (value : Json) (types : Entries ContentType) : Prop :=
  ∃ members, value = .object members ∧
    List.Forall₂ (fun member entry => entry.1 = member.1 ∧ Written member.1 member.2 entry.2)
      members types

lemma get?_of_written (members : List (String × Json)) (types : Entries ContentType) (id : String)
    (h : List.Forall₂
      (fun member entry => entry.1 = member.1 ∧ Written member.1 member.2 entry.2) members types) :
    (Entries.get? id members = none ∧ Entries.get? id types = none) ∨
      ∃ value type, Entries.get? id members = some value ∧ Entries.get? id types = some type ∧
        Written id value type := by
  induction h with
  | nil => exact Or.inl ⟨rfl, rfl⟩
  | @cons member entry members types hentry _ ih =>
    obtain ⟨key, value⟩ := member
    obtain ⟨same, type⟩ := entry
    obtain ⟨hsame, hwritten⟩ := hentry
    obtain rfl : same = key := hsame
    by_cases hkey : same = id
    · subst hkey
      exact Or.inr ⟨value, type, by simp [Entries.get?], by simp [Entries.get?], hwritten⟩
    · simpa [Entries.get?, hkey] using ih

end ContentType

def storedType? (id : String) (document : Json) : Option Json :=
  (document.member? "type").bind (Json.member? id)

lemma contentTypes_eq_ok (value : Json) (types : Entries ContentType) :
    contentTypes value = .ok types ↔ ContentType.AllWritten value types := by
  simp only [contentTypes, entries_eq_ok, ContentType.read_eq_ok, ContentType.AllWritten]

namespace Provider

structure Told (find : String → Option Json) (provider : Provider) : Prop where
  name : find "name" = some (.string provider.name)
  passwordHash : Stands (fun value x => ∃ s ∈ x, value = .string s) none (find "pwd_hash")
    provider.passwordHash
  superProvider : Stands (fun value x => ∃ b ∈ x, value = .bool b) none (find "super_provider")
    provider.superProvider
  types : Stands ContentType.AllWritten [] (find "type") provider.types

lemma optionalFlag_eq_ok (value : Json) (x : Option Bool) : optional flag value = .ok x ↔
    Stands (fun value x => ∃ b ∈ x, value = .bool b) none (some value) x := by
  simp only [optional_eq_ok, flag_eq_ok]

lemma orEmptyTypes_eq_ok (value : Json) (types : Entries ContentType) :
    orEmpty [] contentTypes value = .ok types ↔
      Stands ContentType.AllWritten [] (some value) types := by
  have hgood : (fun value types => contentTypes value = .ok types) = ContentType.AllWritten := by
    funext value types
    exact propext (contentTypes_eq_ok value types)
  rw [orEmpty_eq_ok, hgood]

lemma keyed_eq_ok (find : String → Option Json) (provider : Provider) :
    keyed find = .ok provider ↔ Told find provider := by
  simp only [keyed, Keyed.bind_eq_ok, Keyed.required_eq_ok, Keyed.pure_eq_ok]
  constructor
  · rintro ⟨_, hname, hash, hhash, super, hsuper, types, htypes, name, rfl, rfl⟩
    obtain ⟨_, hname, htext⟩ := (Keyed.field?_eq_some _ _ _ _).mp hname
    exact ⟨(text_eq_ok _ _).mp htext ▸ hname,
      (Keyed.field?_stands ContentType.optionalText_eq_ok _ _).mp
        ⟨hash, hhash, by cases hash <;> rfl⟩,
      (Keyed.field?_stands optionalFlag_eq_ok _ _).mp ⟨super, hsuper, by cases super <;> rfl⟩,
      (Keyed.field?_stands orEmptyTypes_eq_ok _ _).mp ⟨types, htypes, rfl⟩⟩
  · rintro ⟨hname, hhash, hsuper, htypes⟩
    obtain ⟨hash, hhash, hprovider⟩ :=
      (Keyed.field?_stands ContentType.optionalText_eq_ok _ _).mpr hhash
    obtain ⟨super, hsuper, hprovider'⟩ := (Keyed.field?_stands optionalFlag_eq_ok _ _).mpr hsuper
    obtain ⟨types, htypes, hprovider''⟩ := (Keyed.field?_stands orEmptyTypes_eq_ok _ _).mpr htypes
    refine ⟨some provider.name, (Keyed.field?_eq_some _ _ _ _).mpr ⟨_, hname, rfl⟩, hash, hhash,
      super, hsuper, types, htypes, _, rfl, ?_⟩
    cases provider
    cases hash <;> cases super <;> simp_all

lemma hasTypeMapping_of_told (members : List (String × Json)) (provider : Provider)
    (h : Told (fun key => Entries.get? key members) provider) : hasTypeMapping members = true := by
  have htypes := h.types
  simp only [hasTypeMapping]
  cases hvalue : Entries.get? "type" members with
  | none => rfl
  | some value =>
    by_cases hnull : value = .null
    · rw [hnull]
    · rw [hvalue, stands_given_iff _ _ _ _ hnull] at htypes
      obtain ⟨_, rfl, -⟩ := htypes
      rfl

lemma ofDocument_eq_ok (document : Json) (provider : Provider) :
    ofDocument document = .ok provider ↔ Told (fun key => document.member? key) provider := by
  cases document with
  | object members =>
    simp only [Json.member?, ← keyed_eq_ok]
    constructor
    · intro h
      simp only [ofDocument] at h
      split at h
      · split at h
        · split at h
          · rename_i hkeyed
            exact Except.ok.inj h ▸ hkeyed
          · cases h
        · cases h
      · cases h
    · intro h
      have htold := (keyed_eq_ok _ _).mp h
      have hname : Entries.get? "name" members = some (.string provider.name) := htold.name
      simp only [ofDocument, hname, hasTypeMapping_of_told members provider htold, if_true, h]
  | null | bool | number | string | array =>
    constructor
    · intro h
      cases h
    · intro h
      cases h.name

lemma ofDocument_name (document : Json) (provider : Provider)
    (h : ofDocument document = .ok provider) :
    document.member? "name" = some (.string provider.name) :=
  ((ofDocument_eq_ok document provider).mp h).name

lemma type?_of_ofDocument (document : Json) (provider : Provider) (id : String)
    (h : ofDocument document = .ok provider) :
    (storedType? id document = none ∧ provider.type? id = none) ∨
      ∃ value type, storedType? id document = some value ∧ provider.type? id = some type ∧
        ContentType.Written id value type := by
  have htypes := ((ofDocument_eq_ok document provider).mp h).types
  simp only [storedType?, type?]
  generalize document.member? "type" = stored at htypes ⊢
  generalize provider.types = types at htypes ⊢
  cases htypes with
  | absent | null => exact Or.inl ⟨rfl, rfl⟩
  | given _ hwritten =>
    obtain ⟨members, rfl, hmembers⟩ := hwritten
    exact ContentType.get?_of_written members types id hmembers

lemma ofDocument_error (document : Json) (e : Error) (h : ofDocument document = .error e) :
    ∃ fault, e = .integrity fault := by
  simp only [ofDocument] at h
  split at h
  · split at h
    · split at h
      · split at h
        · cases h
        · exact ⟨_, (Except.error.inj h).symm⟩
      · exact ⟨_, (Except.error.inj h).symm⟩
    · exact ⟨_, (Except.error.inj h).symm⟩
  · exact ⟨_, (Except.error.inj h).symm⟩

end Provider

end ContentHub
