import ContentHub.Proofs.Json.Normal
import ContentHub.Proofs.Json.ReadBack
import ContentHub.Proofs.Json.Shape
import Mathlib.Tactic

namespace ContentHub.Json

inductive Contains : (value part : Json) → Prop
  | self (value : Json) : Contains value value
  | item {items : List Json} {item part : Json} (hitem : item ∈ items) (h : Contains item part) :
      Contains (.array items) part
  | member {members : List (String × Json)} {member : String × Json} {part : Json}
      (hmember : member ∈ members) (h : Contains member.2 part) : Contains (.object members) part

def Distinct (value : Json) : Prop :=
  ∀ members, value.Contains (.object members) → (Entries.keys members).Nodup

lemma Distinct.item {items : List Json} {item : Json} (h : Distinct (.array items))
    (hitem : item ∈ items) : item.Distinct :=
  fun members hmembers => h members (.item hitem hmembers)

lemma Distinct.member {members : List (String × Json)} {member : String × Json}
    (h : Distinct (.object members)) (hmember : member ∈ members) : member.2.Distinct :=
  fun others hothers => h others (.member hmember hothers)

section Normal

lemma normalItems_eq_map (items : List Json) : normalItems items = items.map normal := by
  induction items with
  | nil => rfl
  | cons item rest ih => rw [normalItems, ih, List.map_cons]

lemma normalMembers_eq_map (members : List (String × Json)) :
    normalMembers members = members.map fun member => (member.1, member.2.normal) := by
  induction members with
  | nil => rfl
  | cons member rest ih => rw [normalMembers, ih, List.map_cons]

lemma normal_eq_null_iff (value : Json) : value.normal = .null ↔ value = .null := by
  cases value <;> simp [normal]

lemma get?_normal {members : List (String × Json)} (h : (Entries.keys members).Nodup)
    (key : String) : Entries.get? key (Entries.ofList (normalMembers members)) =
      (Entries.get? key members).map normal := by
  have hkeys : Entries.keys (normalMembers members) = Entries.keys members := by
    rw [normalMembers_eq_map, Entries.keys, List.map_map]
    rfl
  rw [Entries.get?_ofList, Entries.get?_reverse (hkeys ▸ h), normalMembers_eq_map,
    Entries.get?_map]

end Normal

/-- The value has no null in it and no object with two members of one key, is nested at most `room`
deep, and every number in it is legible. -/
inductive Tidy : (room : ℕ) → Json → Prop
  | bool {room : ℕ} (b : Bool) : Tidy room (.bool b)
  | number {room : ℕ} {n : Number} (h : Legible Decimal.ofWritten? n) : Tidy room (.number n)
  | string {room : ℕ} (s : String) : Tidy room (.string s)
  | array {room : ℕ} {items : List Json} (h : ∀ item ∈ items, Tidy room item) :
      Tidy (room + 1) (.array items)
  | object {room : ℕ} {members : List (String × Json)} (hkeys : (Entries.keys members).Nodup)
      (h : ∀ member ∈ members, Tidy room member.2) : Tidy (room + 1) (.object members)

namespace Tidy

variable {room : ℕ} {value part : Json}

lemma of_contains (hpart : value.Contains part) (h : Tidy room value) :
    ∃ left, Tidy left part := by
  induction hpart generalizing room with
  | self => exact ⟨room, h⟩
  | item hitem _ ih =>
    cases h with
    | array h => exact ih (h _ hitem)
  | member hmember _ ih =>
    cases h with
    | object _ h => exact ih (h _ hmember)

lemma not_contains_null (h : Tidy room value) : ¬value.Contains .null := by
  intro hnull
  obtain ⟨left, hleft⟩ := of_contains hnull h
  cases hleft

lemma distinct (h : Tidy room value) : value.Distinct := by
  intro members hmembers
  obtain ⟨left, hleft⟩ := of_contains hmembers h
  cases hleft with
  | object hkeys _ => exact hkeys

lemma readable (h : Tidy room value) : Readable Decimal.ofWritten? room value := by
  induction h with
  | bool | string => simp [Readable]
  | number h => simpa [Readable] using h
  | array _ ih => exact (itemsReadable_iff _ _).mpr ih
  | object _ _ ih => exact (membersReadable_iff _ _).mpr ih

end Tidy

def present (fields : List (String × Option Json)) : List (String × Json) :=
  fields.flatMap fun field => memberIfSome field.1 field.2

lemma get?_present {fields : List (String × Option Json)} (h : (Entries.keys fields).Nodup)
    (key : String) : Entries.get? key (present fields) = (Entries.get? key fields).join := by
  induction fields with
  | nil => rfl
  | cons field rest ih =>
    obtain ⟨hfield, hrest⟩ := List.nodup_cons.mp h
    rw [present, List.flatMap_cons, Entries.get?_append, get?_memberIfSome, ← present, ih hrest]
    by_cases hkey : field.1 = key
    · have hlater : Entries.get? key rest = none :=
        (Entries.get?_eq_none_iff key rest).mpr (hkey ▸ hfield)
      simp [Entries.get?, hkey, hlater]
    · simp [Entries.get?, hkey]

lemma keys_present (fields : List (String × Option Json)) :
    (Entries.keys (present fields)).Sublist (Entries.keys fields) := by
  induction fields with
  | nil => exact List.Sublist.slnil
  | cons field rest ih =>
    rw [present, List.flatMap_cons, Entries.keys_append]
    exact (keys_memberIfSome field.1 field.2).append ih

lemma mem_present {fields : List (String × Option Json)} {member : String × Json}
    (h : member ∈ present fields) : (member.1, some member.2) ∈ fields := by
  obtain ⟨⟨key, value⟩, hfield, hmember⟩ := List.mem_flatMap.mp h
  cases value with
  | none => cases hmember
  | some value =>
    obtain rfl := List.mem_singleton.mp hmember
    exact hfield

lemma Tidy.present {room : ℕ} {fields : List (String × Option Json)}
    (hkeys : (Entries.keys fields).Nodup)
    (h : ∀ field ∈ fields, ∀ value ∈ field.2, Tidy room value) :
    Tidy (room + 1) (.object (present fields)) :=
  .object (hkeys.sublist (keys_present fields)) fun _ hmember =>
    h _ (mem_present hmember) _ rfl

lemma Tidy.parse?_eq {value : Json} (h : Tidy maxDepth value) :
    parse? value.print = some value.normal ∧ parse? value.pretty = some value.normal := by
  have hread : ∀ s, WrittenAs value s → parse? (String.ofList s) = some value.normal := by
    intro s hs
    have hback := readWith?_writtenAs h.readable hs blank_nil
    rw [List.append_nil] at hback
    rw [parse?, parseWith?, String.toList_ofList, hback, Option.map_some]
  exact ⟨hread _ (writtenAs_chars value), hread _ (writtenAs_prettyChars 0 value)⟩

end ContentHub.Json
