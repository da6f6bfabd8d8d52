import ContentHub.Proofs.Entries
import ContentHub.Proofs.Provider.Acceptance
import Mathlib.Logic.Relation
import Mathlib.Tactic

namespace ContentHub

def Json.flag? : Json → Option Bool
  | .bool b => some b
  | _ => none

def Json.items? : Json → Option (List Json)
  | .array items => some items
  | _ => none

def SearchIndex.stored? (value : Json) : Option SearchIndex :=
  match value.member? "name", value.member? "type" with
  | some (.string name), some (.string kind) => some ⟨name, kind⟩
  | _, _ => none

structure ContentType.Keeps (id : String) (stored : Json) (type : ContentType) : Prop where
  id : type.id = id
  tag : type.tag = (stored.member? "dcp_type").bind Json.text?
  index : type.index = (stored.member? "index").bind SearchIndex.stored?
  stages : type.stages.map (fun spec => Json.object spec.members) =
    ((stored.member? "input_preprocessors").bind Json.items?).getD []

def storedTypes (document : Json) : List (String × Json) :=
  match document.member? "type" with
  | some (.object types) => types
  | _ => []

structure Provider.Keeps (document : Json) (provider : Provider) : Prop where
  name : document.member? "name" = some (.string provider.name)
  passwordHash : provider.passwordHash = (document.member? "pwd_hash").bind Json.text?
  superProvider : provider.superProvider = (document.member? "super_provider").bind Json.flag?
  ids : Entries.keys provider.types = Entries.keys (storedTypes document)
  types : List.Forall₂ (fun stored entry => ContentType.Keeps stored.1 stored.2 entry.2)
    (storedTypes document) provider.types

inductive UnknownEdit (fields : List String) :
    List (String × Json) → List (String × Json) → Prop
  | put (members : List (String × Json)) (key : String) (value : Json) (hkey : key ∉ fields) :
      UnknownEdit fields members (Entries.insert key value members)
  | drop (members : List (String × Json)) (key : String) (hkey : key ∉ fields) :
      UnknownEdit fields members (Entries.erase key members)

inductive ValueEdit (key : String) (edit : Json → Json → Prop) :
    List (String × Json) → List (String × Json) → Prop
  | intro (before after : List (String × Json)) {value other : Json} (h : edit value other) :
      ValueEdit key edit (before ++ (key, value) :: after) (before ++ (key, other) :: after)

inductive IndexEdit : Json → Json → Prop
  | unknown {members others : List (String × Json)}
      (h : UnknownEdit ["name", "type"] members others) :
      IndexEdit (.object members) (.object others)

inductive TypeEdit : Json → Json → Prop
  | unknown {members others : List (String × Json)}
      (h : UnknownEdit ["dcp_type", "index", "input_preprocessors"] members others) :
      TypeEdit (.object members) (.object others)
  | index {members others : List (String × Json)} (h : ValueEdit "index" IndexEdit members others) :
      TypeEdit (.object members) (.object others)
  | listedIndex (tag : Json) {value other : Json} (h : IndexEdit value other) (rest : List Json) :
      TypeEdit (.array (tag :: value :: rest)) (.array (tag :: other :: rest))

inductive TypesEdit : Json → Json → Prop
  | intro {types others : List (String × Json)} (id : String)
      (h : ValueEdit id TypeEdit types others) : TypesEdit (.object types) (.object others)

inductive DocumentEdit : Json → Json → Prop
  | unknown {members others : List (String × Json)}
      (h : UnknownEdit ["name", "pwd_hash", "super_provider", "type"] members others) :
      DocumentEdit (.object members) (.object others)
  | types {members others : List (String × Json)} (h : ValueEdit "type" TypesEdit members others) :
      DocumentEdit (.object members) (.object others)

section Kept

lemma Stands.eq_bind {α : Type} {good : Json → α → Prop} {read : Json → Option α}
    {value : Option Json} {x : Option α} (hnull : read .null = none)
    (hread : ∀ given, value = some given → ∀ y, good given y → read given = some y)
    (h : Stands (fun given x => ∃ y ∈ x, good given y) none value x) : x = value.bind read := by
  cases h with
  | absent => rfl
  | null => exact hnull.symm
  | given _ hgood =>
    obtain ⟨y, rfl, hy⟩ := hgood
    exact (hread _ rfl y hy).symm

lemma Stands.eq_text {value : Option Json} {x : Option String}
    (h : Stands (fun given x => ∃ s ∈ x, given = .string s) none value x) :
    x = value.bind Json.text? := by
  refine h.eq_bind rfl ?_
  rintro _ - s rfl
  rfl

lemma Stands.eq_flag {value : Option Json} {x : Option Bool}
    (h : Stands (fun given x => ∃ b ∈ x, given = .bool b) none value x) :
    x = value.bind Json.flag? := by
  refine h.eq_bind rfl ?_
  rintro _ - b rfl
  rfl

lemma SearchIndex.stored?_of_written (value : Json) (index : SearchIndex)
    (hshape : IndexShape value) (h : SearchIndex.Written value index) :
    SearchIndex.stored? value = some index := by
  cases h with
  | keyed hname hkind => simp [SearchIndex.stored?, Json.member?, hname, hkind]
  | listed =>
    obtain ⟨_, hobject⟩ := hshape.object
    cases hobject

lemma ContentType.keeps_of_written (id : String) (value : Json) (type : ContentType)
    (hshape : TypeShape IndexShape value) (h : ContentType.Written id value type) :
    ContentType.Keeps id value type := by
  cases h with
  | listed =>
    obtain ⟨_, hobject⟩ := hshape.object
    cases hobject
  | keyed hid htold =>
    refine ⟨hid, htold.tag.eq_text, htold.index.eq_bind rfl ?_, ?_⟩
    · intro given hgiven index hwritten
      refine SearchIndex.stored?_of_written given index ?_ hwritten
      refine (hshape.index given hgiven).resolve_left ?_
      rintro rfl
      cases hwritten
    · have hstages := htold.stages
      simp only [Json.member?]
      generalize Entries.get? "input_preprocessors" _ = stored at hstages ⊢
      generalize type.stages = stages at hstages ⊢
      cases hstages with
      | absent | null => rfl
      | given _ hlist =>
        subst hlist
        rfl

lemma ContentType.keeps_of_allWritten (members : List (String × Json)) (types : Entries ContentType)
    (hshapes : ∀ member ∈ members, TypeShape IndexShape member.2)
    (h : List.Forall₂ (fun member entry => entry.1 = member.1 ∧ Written member.1 member.2 entry.2)
      members types) :
    Entries.keys types = Entries.keys members ∧
      List.Forall₂ (fun stored entry => Keeps stored.1 stored.2 entry.2) members types := by
  induction h with
  | nil => exact ⟨rfl, .nil⟩
  | cons hentry _ ih =>
    obtain ⟨hshape, hshapes⟩ := List.forall_mem_cons.mp hshapes
    obtain ⟨hkeys, hkept⟩ := ih hshapes
    exact ⟨congrArg₂ List.cons hentry.1 hkeys,
      .cons (keeps_of_written _ _ _ hshape hentry.2) hkept⟩

lemma Provider.keeps_of_told (document : Json) (provider : Provider)
    (hshape : DocumentShape (TypeShape IndexShape) document)
    (h : Provider.Told (fun key => document.member? key) provider) :
    provider.Keeps document := by
  have htypes : Entries.keys provider.types = Entries.keys (storedTypes document) ∧
      List.Forall₂ (fun stored entry => ContentType.Keeps stored.1 stored.2 entry.2)
        (storedTypes document) provider.types := by
    have hstands := h.types
    have hshapes := hshape.types
    simp only [storedTypes]
    generalize document.member? "type" = stored at hstands hshapes ⊢
    generalize provider.types = types at hstands ⊢
    cases hstands with
    | absent | null => exact ⟨rfl, .nil⟩
    | given hnull hwritten =>
      obtain ⟨members, rfl, hmembers⟩ := hwritten
      obtain ⟨_, hsame, hshapes⟩ := (hshapes _ rfl).resolve_left hnull
      obtain rfl := Json.object.inj hsame
      exact ContentType.keeps_of_allWritten members types hshapes hmembers
  exact ⟨h.name, h.passwordHash.eq_text, h.superProvider.eq_flag, htypes.1, htypes.2⟩

end Kept

section Edits

variable {members others : List (String × Json)} {fields : List String} {key : String}
  {edit : Json → Json → Prop} {value other : Json}

lemma UnknownEdit.get?_eq (h : UnknownEdit fields members others) {field : String}
    (hfield : field ∈ fields) : Entries.get? field others = Entries.get? field members := by
  cases h with
  | put key value hkey =>
    have hne : key ≠ field := fun hsame => hkey (hsame ▸ hfield)
    exact Entries.get?_insert_of_ne key field value members hne
  | drop key hkey =>
    have hne : key ≠ field := fun hsame => hkey (hsame ▸ hfield)
    exact Entries.get?_erase_of_ne key field members hne

lemma ValueEdit.get?_of_ne (h : ValueEdit key edit members others) {field : String}
    (hfield : field ≠ key) : Entries.get? field others = Entries.get? field members := by
  cases h with
  | intro before after h => simp [Entries.get?_append, Entries.get?, hfield.symm]

lemma ValueEdit.get?_cases (h : ValueEdit key edit members others) :
    Entries.get? key others = Entries.get? key members ∨ ∃ value other, edit value other ∧
      Entries.get? key members = some value ∧ Entries.get? key others = some other := by
  cases h with
  | @intro before after value other h =>
    cases hbefore : Entries.get? key before with
    | some _ => exact Or.inl (by simp [Entries.get?_append, hbefore])
    | none =>
      exact Or.inr ⟨value, other, h, by simp [Entries.get?_append, Entries.get?, hbefore],
        by simp [Entries.get?_append, Entries.get?, hbefore]⟩

lemma ValueEdit.stands_iff {α : Type} {good : Json → α → Prop} (silent : α)
    (hnull : ∀ value other, edit value other → value ≠ .null ∧ other ≠ .null)
    (hgood : ∀ value other, edit value other → ∀ x, good value x ↔ good other x)
    (h : ValueEdit key edit members others) (x : α) :
    Stands good silent (Entries.get? key members) x ↔
      Stands good silent (Entries.get? key others) x := by
  rcases h.get?_cases with hsame | ⟨value, other, hedit, hvalue, hother⟩
  · rw [hsame]
  · obtain ⟨hnotNull, hnotNull'⟩ := hnull value other hedit
    rw [hvalue, hother, stands_given_iff _ _ _ _ hnotNull, stands_given_iff _ _ _ _ hnotNull',
      hgood value other hedit]

lemma IndexEdit.ne_null (h : IndexEdit value other) : value ≠ .null ∧ other ≠ .null := by
  cases h
  exact ⟨Json.noConfusion, Json.noConfusion⟩

lemma SearchIndex.written_object (members : List (String × Json)) (index : SearchIndex) :
    SearchIndex.Written (.object members) index ↔
      Entries.get? "name" members = some (.string index.name) ∧
        Entries.get? "type" members = some (.string index.kind) := by
  constructor
  · rintro ⟨hname, hkind⟩
    exact ⟨hname, hkind⟩
  · rintro ⟨hname, hkind⟩
    exact .keyed hname hkind

lemma IndexEdit.written_iff (h : IndexEdit value other) (index : SearchIndex) :
    SearchIndex.Written value index ↔ SearchIndex.Written other index := by
  cases h with
  | unknown h =>
    rw [SearchIndex.written_object, SearchIndex.written_object, h.get?_eq (by simp),
      h.get?_eq (by simp)]

lemma IndexEdit.exists_written_iff (h : IndexEdit value other) (x : Option SearchIndex) :
    (∃ y ∈ x, SearchIndex.Written value y) ↔ ∃ y ∈ x, SearchIndex.Written other y := by
  simp only [h.written_iff]

namespace ContentType

lemma written_object (id : String) (members : List (String × Json)) (type : ContentType) :
    Written id (.object members) type ↔ type.id = id ∧ Told (Entries.get? "dcp_type" members)
      (Entries.get? "index" members) (Entries.get? "input_preprocessors" members) type := by
  constructor
  · rintro ⟨hid, h⟩
    exact ⟨hid, h⟩
  · rintro ⟨hid, h⟩
    exact .keyed hid h

lemma written_array (id : String) (items : List Json) (type : ContentType) :
    Written id (.array items) type ↔
      type.id = id ∧ items.length ≤ 3 ∧ Told items[0]? items[1]? items[2]? type := by
  constructor
  · intro h
    cases h with
    | listed hid hlength h => exact ⟨hid, hlength, h⟩
  · rintro ⟨hid, hlength, h⟩
    exact .listed hid hlength h

lemma told_congr_index {tag index other stages : Option Json} {type : ContentType}
    (h : ∀ x, Stands (fun value x => ∃ y ∈ x, SearchIndex.Written value y) none index x ↔
      Stands (fun value x => ∃ y ∈ x, SearchIndex.Written value y) none other x) :
    Told tag index stages type ↔ Told tag other stages type := by
  constructor
  · intro htold
    exact { htold with index := (h _).mp htold.index }
  · intro htold
    exact { htold with index := (h _).mpr htold.index }

end ContentType

lemma TypeEdit.written_iff (h : TypeEdit value other) (id : String) (type : ContentType) :
    ContentType.Written id value type ↔ ContentType.Written id other type := by
  cases h with
  | unknown h =>
    rw [ContentType.written_object, ContentType.written_object, h.get?_eq (by simp),
      h.get?_eq (by simp), h.get?_eq (by simp)]
  | index h =>
    have hindex := h.stands_iff none (fun _ _ hedit => hedit.ne_null)
      fun _ _ hedit => hedit.exists_written_iff
    have htag := h.get?_of_ne (show "dcp_type" ≠ "index" by decide)
    have hstages := h.get?_of_ne (show "input_preprocessors" ≠ "index" by decide)
    rw [ContentType.written_object, ContentType.written_object, htag, hstages,
      ContentType.told_congr_index hindex]
  | @listedIndex tag value other hedit rest =>
    have hindex : ∀ x, Stands (fun value x => ∃ y ∈ x, SearchIndex.Written value y) none
        (some value) x ↔ Stands (fun value x => ∃ y ∈ x, SearchIndex.Written value y) none
          (some other) x := by
      intro x
      rw [stands_given_iff _ _ _ _ hedit.ne_null.1, stands_given_iff _ _ _ _ hedit.ne_null.2,
        hedit.exists_written_iff]
    simp only [ContentType.written_array, List.length_cons, List.getElem?_cons_zero,
      List.getElem?_cons_succ, ContentType.told_congr_index hindex]

lemma forall₂_replace_iff {α β : Type} {related : α → β → Prop} {x y : α}
    (h : ∀ z, related x z ↔ related y z) (before after : List α) (zs : List β) :
    List.Forall₂ related (before ++ x :: after) zs ↔
      List.Forall₂ related (before ++ y :: after) zs := by
  induction before generalizing zs with
  | nil => simp only [List.nil_append, List.forall₂_cons_left_iff, h]
  | cons _ before ih => simp only [List.cons_append, List.forall₂_cons_left_iff, ih]

lemma TypesEdit.allWritten_iff (h : TypesEdit value other) (types : Entries ContentType) :
    ContentType.AllWritten value types ↔ ContentType.AllWritten other types := by
  cases h with
  | intro id h =>
    cases h with
    | intro before after h =>
      simp only [ContentType.AllWritten, Json.object.injEq, exists_eq_left']
      refine forall₂_replace_iff (fun entry => ?_) before after types
      rw [h.written_iff]

lemma TypesEdit.ne_null (h : TypesEdit value other) : value ≠ .null ∧ other ≠ .null := by
  cases h
  exact ⟨Json.noConfusion, Json.noConfusion⟩

lemma Provider.told_iff (find : String → Option Json) (provider : Provider) :
    Provider.Told find provider ↔ find "name" = some (.string provider.name) ∧
      Stands (fun value x => ∃ s ∈ x, value = .string s) none (find "pwd_hash")
        provider.passwordHash ∧
      Stands (fun value x => ∃ b ∈ x, value = .bool b) none (find "super_provider")
        provider.superProvider ∧
      Stands ContentType.AllWritten [] (find "type") provider.types := by
  constructor
  · rintro ⟨hname, hhash, hsuper, htypes⟩
    exact ⟨hname, hhash, hsuper, htypes⟩
  · rintro ⟨hname, hhash, hsuper, htypes⟩
    exact ⟨hname, hhash, hsuper, htypes⟩

lemma DocumentEdit.told_iff (h : DocumentEdit value other) (provider : Provider) :
    Provider.Told (fun key => value.member? key) provider ↔
      Provider.Told (fun key => other.member? key) provider := by
  cases h with
  | unknown h =>
    simp only [Provider.told_iff, Json.member?]
    rw [h.get?_eq (by simp), h.get?_eq (by simp), h.get?_eq (by simp), h.get?_eq (by simp)]
  | types h =>
    have htypes := h.stands_iff [] (fun _ _ hedit => hedit.ne_null)
      fun _ _ hedit => hedit.allWritten_iff
    have hname := h.get?_of_ne (show "name" ≠ "type" by decide)
    have hhash := h.get?_of_ne (show "pwd_hash" ≠ "type" by decide)
    have hsuper := h.get?_of_ne (show "super_provider" ≠ "type" by decide)
    simp only [Provider.told_iff, Json.member?, hname, hhash, hsuper, htypes]

lemma ofDocument_eq_ok_of_edits {document : Json}
    (h : Relation.ReflTransGen DocumentEdit document other) (provider : Provider) :
    Provider.ofDocument document = .ok provider ↔ Provider.ofDocument other = .ok provider := by
  induction h with
  | refl => rfl
  | tail _ hedit ih => rw [ih, Provider.ofDocument_eq_ok, Provider.ofDocument_eq_ok, hedit.told_iff]

end Edits

/-- What is stored in the fields of a document is kept, and nothing else is looked at. -/
theorem ofDocument_keeps (document : Json) :
    (DocumentShape (TypeShape IndexShape) document →
      ∃ provider, Provider.ofDocument document = .ok provider ∧ provider.Keeps document) ∧
      ∀ other, Relation.ReflTransGen DocumentEdit document other → ∀ provider,
        Provider.ofDocument document = .ok provider ↔ Provider.ofDocument other = .ok provider := by
  refine ⟨fun h => ?_, fun other hedits => ofDocument_eq_ok_of_edits hedits⟩
  obtain ⟨provider, hprovider⟩ := (accepted_iff document).mpr ((documentShape_iff document).mp h).1
  have htold := (Provider.ofDocument_eq_ok document provider).mp hprovider
  exact ⟨provider, hprovider, Provider.keeps_of_told document provider h htold⟩

section Samples

def trimSpec : Json :=
  .object [("class", .string "trim"), ("depth", .whole 3)]

def essayIndex : List (String × Json) :=
  [("name", .string "texts"), ("type", .string "essay")]

def essayDocument (index : List (String × Json)) : Json :=
  .object [("name", .string "press"), ("pwd_hash", .null), ("super_provider", .bool false),
    ("type", .object [
      ("essay", .object [("dcp_type", .string "news"), ("index", .object index),
        ("input_preprocessors", .array [trimSpec, trimSpec])]),
      ("letter", .object [("index", .null)])])]

def essayProvider : Provider :=
  ⟨"press", none, some false, [("essay", ⟨"essay", some "news", some ⟨"texts", "essay"⟩,
      [⟨[("class", .string "trim"), ("depth", .whole 3)]⟩,
        ⟨[("class", .string "trim"), ("depth", .whole 3)]⟩]⟩),
    ("letter", ⟨"letter", none, none, []⟩)]⟩

lemma shape_essayDocument : DocumentShape (TypeShape IndexShape) (essayDocument essayIndex) := by
  refine (documentShape_iff _).mpr ⟨(accepted_iff _).mp ⟨essayProvider, by decide⟩, ?_⟩
  intro members hmembers
  obtain rfl : [_, _] = members := by
    simpa [essayDocument, Json.member?, Entries.get?] using hmembers
  simp [Json.member?, Entries.get?]

theorem ofDocument_keeps_sample :
    (∃ provider, Provider.ofDocument (essayDocument essayIndex) = .ok provider ∧
        provider.Keeps (essayDocument essayIndex)) ∧
      Provider.ofDocument (essayDocument (Entries.insert "shards" (.whole 3) essayIndex)) =
        .ok essayProvider := by
  have hkeeps := ofDocument_keeps (essayDocument essayIndex)
  refine ⟨hkeeps.1 shape_essayDocument, (hkeeps.2 _ (.single ?_) _).mp (by decide)⟩
  exact .types (.intro [_, _, _] [] (.intro "essay" (.intro [] [_]
    (.index (.intro [_] [_] (.unknown (.put essayIndex "shards" _ (by decide))))))))

end Samples

end ContentHub
