import ContentHub.Proofs.Entries
import ContentHub.Proofs.Json.ReadBack
import Mathlib.Tactic

namespace ContentHub.Json

mutual

def Ordered : Json → Prop
  | .null | .bool _ | .number _ | .string _ => True
  | .array items => ItemsOrdered items
  | .object members => Entries.Sorted members ∧ MembersOrdered members

def ItemsOrdered : List Json → Prop
  | [] => True
  | item :: rest => Ordered item ∧ ItemsOrdered rest

def MembersOrdered : List (String × Json) → Prop
  | [] => True
  | (_, value) :: rest => Ordered value ∧ MembersOrdered rest

end

lemma itemsOrdered_iff (items : List Json) :
    ItemsOrdered items ↔ ∀ item ∈ items, Ordered item := by
  induction items with
  | nil => simp [ItemsOrdered]
  | cons item rest ih => simp [ItemsOrdered, ih]

lemma membersOrdered_iff (members : List (String × Json)) :
    MembersOrdered members ↔ ∀ member ∈ members, Ordered member.2 := by
  induction members with
  | nil => simp [MembersOrdered]
  | cons member rest ih => simp [MembersOrdered, ih]

mutual

lemma ordered_normal : ∀ value : Json, Ordered value.normal
  | .null | .bool _ | .number _ | .string _ => by simp [normal, Ordered]
  | .array items => by
    simp only [normal, Ordered]
    exact itemsOrdered_normalItems items
  | .object members => by
    simp only [normal, Ordered, membersOrdered_iff]
    have hmembers := (membersOrdered_iff _).mp (membersOrdered_normalMembers members)
    exact ⟨Entries.sorted_ofList _,
      fun member hmember => hmembers member (Entries.mem_of_mem_ofList _ member hmember)⟩

lemma itemsOrdered_normalItems : ∀ items : List Json, ItemsOrdered (normalItems items)
  | [] => by simp [normalItems, ItemsOrdered]
  | item :: rest => by
    simp only [normalItems, ItemsOrdered]
    exact ⟨ordered_normal item, itemsOrdered_normalItems rest⟩

lemma membersOrdered_normalMembers : ∀ members : List (String × Json),
    MembersOrdered (normalMembers members)
  | [] => by simp [normalMembers, MembersOrdered]
  | (_, value) :: rest => by
    simp only [normalMembers, MembersOrdered]
    exact ⟨ordered_normal value, membersOrdered_normalMembers rest⟩

end

mutual

lemma normal_of_ordered : ∀ value : Json, Ordered value → value.normal = value
  | .null, _ | .bool _, _ | .number _, _ | .string _, _ => by simp [normal]
  | .array items, h => by
    simp only [Ordered] at h
    rw [normal, normalItems_of_ordered items h]
  | .object members, h => by
    simp only [Ordered] at h
    rw [normal, normalMembers_of_ordered members h.2, Entries.ofList_eq_self members h.1]

lemma normalItems_of_ordered : ∀ items : List Json, ItemsOrdered items → normalItems items = items
  | [], _ => rfl
  | item :: rest, h => by
    simp only [ItemsOrdered] at h
    rw [normalItems, normal_of_ordered item h.1, normalItems_of_ordered rest h.2]

lemma normalMembers_of_ordered : ∀ members : List (String × Json),
    MembersOrdered members → normalMembers members = members
  | [], _ => rfl
  | (key, value) :: rest, h => by
    simp only [MembersOrdered] at h
    rw [normalMembers, normal_of_ordered value h.1, normalMembers_of_ordered rest h.2]

end

lemma normal_eq_self_iff (value : Json) : value.normal = value ↔ Ordered value :=
  ⟨fun h => h ▸ ordered_normal value, normal_of_ordered value⟩

section Fits

variable {decimal? : DecimalReader} {room : ℕ}

lemma itemsReadable_iff (room : ℕ) (items : List Json) :
    ItemsReadable decimal? room items ↔ ∀ item ∈ items, Readable decimal? room item := by
  induction items with
  | nil => simp [ItemsReadable]
  | cons item rest ih => simp [ItemsReadable, ih]

lemma membersReadable_iff (room : ℕ) (members : List (String × Json)) :
    MembersReadable decimal? room members ↔
      ∀ member ∈ members, Readable decimal? room member.2 := by
  induction members with
  | nil => simp [MembersReadable]
  | cons member rest ih => simp [MembersReadable, ih]

def Fits (decimal? : DecimalReader) (room : ℕ) (value : Json) : Prop :=
  value.normal = value ∧ Readable decimal? room value

lemma fits_bool (b : Bool) : Fits decimal? room (.bool b) := by
  simp [Fits, normal, Readable]

lemma fits_string (s : String) : Fits decimal? room (.string s) := by
  simp [Fits, normal, Readable]

lemma fits_array_iff (items : List Json) :
    Fits decimal? (room + 1) (.array items) ↔ ∀ item ∈ items, Fits decimal? room item := by
  simp only [Fits, normal_eq_self_iff, Ordered, itemsOrdered_iff, Readable, itemsReadable_iff]
  exact forall₂_and.symm

lemma fits_object_iff (members : List (String × Json)) :
    Fits decimal? (room + 1) (.object members) ↔
      Entries.Sorted members ∧ ∀ member ∈ members, Fits decimal? room member.2 := by
  simp only [Fits, normal_eq_self_iff, Ordered, membersOrdered_iff, Readable, membersReadable_iff]
  rw [and_assoc, forall₂_and]

lemma Fits.member? {value member : Json} {key : String} (h : Fits decimal? (room + 1) value)
    (hmember : value.member? key = some member) : Fits decimal? room member := by
  cases value with
  | object members =>
    exact ((fits_object_iff members).mp h).2 _ (Entries.mem_of_get? key members member hmember)
  | null | bool | number | string | array => cases hmember

end Fits

end ContentHub.Json
