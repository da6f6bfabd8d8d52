import ContentHub.Json.Shape
import ContentHub.Proofs.Except
import Mathlib.Tactic

namespace ContentHub

variable {α β : Type}

/-- What a value that may be left out stands for: absent and null it stands for `silent`. -/
inductive Stands (good : Json → α → Prop) (silent : α) : Option Json → α → Prop
  | absent : Stands good silent none silent
  | null : Stands good silent (some .null) silent
  | given {value : Json} {x : α} (hvalue : value ≠ .null) (h : good value x) :
      Stands good silent (some value) x

lemma stands_absent_iff (good : Json → α → Prop) (silent x : α) :
    Stands good silent none x ↔ x = silent := by
  constructor
  · rintro (_ | _ | _)
    rfl
  · rintro rfl
    exact .absent

lemma stands_null_iff (good : Json → α → Prop) (silent x : α) :
    Stands good silent (some .null) x ↔ x = silent := by
  constructor
  · rintro (_ | _ | ⟨hvalue, -⟩)
    · rfl
    · exact absurd rfl hvalue
  · rintro rfl
    exact .null

lemma stands_given_iff (good : Json → α → Prop) (silent x : α) (value : Json)
    (hvalue : value ≠ .null) : Stands good silent (some value) x ↔ good value x := by
  constructor
  · rintro (_ | _ | ⟨-, h⟩)
    · exact absurd rfl hvalue
    · exact h
  · exact .given hvalue

structure Shape.Reads (read : Json → Shaped α) (silent : α) (stands : Option Json → α → Prop) :
    Prop where
  given : ∀ value x, read value = .ok x ↔ stands (some value) x
  absent : ∀ x, stands none x ↔ x = silent

lemma Shape.reads_stands {read : Json → Shaped α} {good : Json → α → Prop} {silent : α}
    (h : ∀ value x, read value = .ok x ↔ Stands good silent (some value) x) :
    Reads read silent (Stands good silent) :=
  ⟨h, stands_absent_iff good silent⟩

def Omittable (good : Json → Prop) (value : Option Json) : Prop :=
  ∀ given, value = some given → given = .null ∨ good given

lemma exists_stands_iff (good : Json → α → Prop) (silent : α) (value : Option Json) :
    (∃ x, Stands good silent value x) ↔ Omittable (fun given => ∃ x, good given x) value := by
  constructor
  · rintro ⟨x, _ | _ | ⟨-, h⟩⟩ given hgiven
    · cases hgiven
    · exact Or.inl (Option.some.inj hgiven).symm
    · exact Or.inr ⟨x, Option.some.inj hgiven ▸ h⟩
  · intro h
    cases value with
    | none => exact ⟨silent, .absent⟩
    | some given =>
      by_cases hnull : given = .null
      · exact ⟨silent, hnull ▸ .null⟩
      · obtain ⟨x, hx⟩ := (h given rfl).resolve_left hnull
        exact ⟨x, .given hnull hx⟩

lemma stands_map (good : Json → α → Prop) (write : α → Json)
    (hnull : ∀ y, write y ≠ .null) (hgood : ∀ y, good (write y) y) (x : Option α) :
    Stands (fun value x => ∃ y ∈ x, good value y) none (x.map write) x := by
  cases x with
  | none => exact .absent
  | some y => exact .given (hnull y) ⟨y, rfl, hgood y⟩

lemma get?_memberIfSome (key field : String) (value : Option Json) :
    Entries.get? field (Json.memberIfSome key value) = if key = field then value else none := by
  cases value <;> simp [Json.memberIfSome, Entries.get?]

lemma keys_memberIfSome (key : String) (value : Option Json) :
    (Entries.keys (Json.memberIfSome key value)).Sublist [key] := by
  cases value <;> simp [Json.memberIfSome, Entries.keys]

namespace Shape

lemma text_eq_ok (value : Json) (s : String) : text value = .ok s ↔ value = .string s := by
  cases value <;> simp [text]

lemma flag_eq_ok (value : Json) (b : Bool) : flag value = .ok b ↔ value = .bool b := by
  cases value <;> simp [flag]

lemma list_eq_ok (item : Json → Shaped α) (value : Json) (xs : List α) :
    list item value = .ok xs ↔
      ∃ items, value = .array items ∧ List.Forall₂ (fun v x => item v = .ok x) items xs := by
  cases value <;> simp [list, mapM_eq_ok]

lemma list_eq_ok_map {item : Json → Shaped α} {write : α → Json}
    (hitem : ∀ value x, item value = .ok x ↔ value = write x) (value : Json) (xs : List α) :
    list item value = .ok xs ↔ value = .array (xs.map write) := by
  have hitems : ∀ items : List Json,
      List.Forall₂ (fun value x => value = write x) items xs ↔ items = xs.map write := by
    intro items
    rw [← List.forall₂_eq_eq_eq, List.forall₂_map_right_iff]
  simp only [list_eq_ok, hitem, hitems]
  constructor
  · rintro ⟨_, rfl, rfl⟩
    rfl
  · rintro rfl
    exact ⟨_, rfl, rfl⟩

lemma entries_eq_ok (read : String → Json → Shaped α) (value : Json) (found : Entries α) :
    entries read value = .ok found ↔ ∃ members, value = .object members ∧
      List.Forall₂ (fun member entry => entry.1 = member.1 ∧ read member.1 member.2 = .ok entry.2)
        members found := by
  have hread : ∀ (member : String × Json) (entry : String × α),
      (read member.1 member.2).map (fun x => (member.1, x)) = .ok entry ↔
        entry.1 = member.1 ∧ read member.1 member.2 = .ok entry.2 := by
    rintro ⟨key, v⟩ ⟨name, x⟩
    cases read key v <;> simp [Except.map, eq_comm]
  cases value <;> simp [entries, mapM_eq_ok, hread]

lemma optional_eq_ok (read : Json → Shaped α) (value : Json) (x : Option α) :
    optional read value = .ok x ↔
      Stands (fun v x => ∃ y ∈ x, read v = .ok y) none (some value) x := by
  by_cases hvalue : value = .null
  · subst hvalue
    simp [optional, stands_null_iff, eq_comm]
  · have hoptional : optional read value = (read value).map some := by
      cases value <;> first | rfl | exact absurd rfl hvalue
    rw [hoptional, stands_given_iff _ _ _ _ hvalue]
    cases read value <;> simp [Except.map, eq_comm]

lemma orEmpty_eq_ok (empty : α) (read : Json → Shaped α) (value : Json) (x : α) :
    orEmpty empty read value = .ok x ↔
      Stands (fun v x => read v = .ok x) empty (some value) x := by
  by_cases hvalue : value = .null
  · subst hvalue
    simp [orEmpty, optional, stands_null_iff, Except.map, eq_comm]
  · have horEmpty : orEmpty empty read value = read value := by
      cases value <;> first
        | exact absurd rfl hvalue
        | (simp only [orEmpty, optional]; cases read _ <;> rfl)
    rw [horEmpty, stands_given_iff _ _ _ _ hvalue]

end Shape

namespace Keyed

variable {find : String → Option Json}

lemma bind_eq_ok (read : Keyed α) (next : α → Keyed β) (find : String → Option Json) (y : β) :
    (read >>= next) find = .ok y ↔ ∃ x, read find = .ok x ∧ next x find = .ok y := by
  simp only [bind, ReaderT.bind, Except.bind]
  cases read find <;> simp

lemma pure_eq_ok (x y : α) (find : String → Option Json) :
    (pure x : Keyed α) find = .ok y ↔ y = x := by
  simp [pure, ReaderT.pure, Except.pure, eq_comm]

lemma field?_eq_some (key : String) (read : Json → Shaped α) (find : String → Option Json)
    (x : α) : field? key read find = .ok (some x) ↔
      ∃ value, find key = some value ∧ read value = .ok x := by
  simp only [field?]
  cases find key with
  | none => simp
  | some value => cases hread : read value <;> simp [Except.map, hread]

lemma required_eq_ok (key : String) (found : Option α) (find : String → Option Json) (x : α) :
    required key found find = .ok x ↔ found = some x := by
  cases found <;> simp [required]

lemma field?_getD_iff {read : Json → Shaped α} {silent : α} {stands : Option Json → α → Prop}
    (h : Shape.Reads read silent stands) (key : String) (find : String → Option Json) (x : α) :
    (∃ found, field? key read find = .ok found ∧ x = found.getD silent) ↔ stands (find key) x := by
  simp only [field?]
  cases find key with
  | none => simp [h.absent]
  | some value =>
    rw [← h.given]
    cases hvalue : read value <;> simp [Except.map, hvalue, eq_comm]

lemma field?_join_iff {read : Json → Shaped (Option α)} {stands : Option Json → Option α → Prop}
    (h : Shape.Reads read none stands) (key : String) (find : String → Option Json)
    (x : Option α) :
    (∃ found, field? key read find = .ok found ∧ x = found.join) ↔ stands (find key) x := by
  have hjoin : ∀ found : Option (Option α), found.join = found.getD none := by
    rintro (_ | _) <;> rfl
  simp only [← field?_getD_iff h, hjoin]

lemma field?_stands {read : Json → Shaped α} {good : Json → α → Prop} {silent : α}
    (hread : ∀ value x, read value = .ok x ↔ Stands good silent (some value) x) (key : String)
    (x : α) : (∃ found, field? key read find = .ok found ∧ x = found.getD silent) ↔
      Stands good silent (find key) x :=
  field?_getD_iff (Shape.reads_stands hread) key find x

end Keyed

namespace Listed

lemma bind_eq_ok (read : Listed α) (next : α → Listed β) (items : List Json)
    (result : β × List Json) :
    (read >>= next) items = .ok result ↔
      ∃ x rest, read items = .ok (x, rest) ∧ next x rest = .ok result := by
  simp only [bind, StateT.bind, Except.bind]
  rcases read items with _ | ⟨x, rest⟩ <;> simp

lemma pure_eq_ok (x : α) (items : List Json) (result : α × List Json) :
    (pure x : Listed α) items = .ok result ↔ result = (x, items) := by
  change Except.ok (x, items) = .ok result ↔ _
  rw [Except.ok.injEq, eq_comm]

lemma next_eq_ok (read : Json → Shaped α) (fault : ShapeFault) (items rest : List Json) (x : α) :
    next read (.error fault) items = .ok (x, rest) ↔
      ∃ value, items = value :: rest ∧ read value = .ok x := by
  cases items with
  | nil => simp [next, Except.map]
  | cons value others =>
    simp only [next]
    cases hread : read value <;> simp [Except.map, hread, eq_comm, and_comm]

lemma next_reads {read : Json → Shaped α} {silent : α} {stands : Option Json → α → Prop}
    (h : Shape.Reads read silent stands) (items rest : List Json) (x : α) :
    next read (.ok silent) items = .ok (x, rest) ↔ stands items.head? x ∧ rest = items.tail := by
  cases items with
  | nil => simp [next, Except.map, h.absent, eq_comm]
  | cons value others =>
    rw [List.head?_cons, ← h.given]
    simp only [next]
    cases read value <;> simp [Except.map, eq_comm]

lemma next_stands {read : Json → Shaped α} {good : Json → α → Prop} {silent : α}
    (hread : ∀ value x, read value = .ok x ↔ Stands good silent (some value) x)
    (items rest : List Json) (x : α) : next read (.ok silent) items = .ok (x, rest) ↔
      Stands good silent items.head? x ∧ rest = items.tail :=
  next_reads (Shape.reads_stands hread) items rest x

end Listed

lemma Record.read_eq_ok (record : Record α) (value : Json) (x : α) :
    record.read value = .ok x ↔
      (∃ members, value = .object members ∧
        record.keyed (fun key => Entries.get? key members) = .ok x) ∨
      ∃ items, value = .array items ∧ record.listed items = .ok (x, []) := by
  cases value with
  | array items =>
    simp only [Record.read, Record.readWith]
    rcases hlisted : record.listed items with _ | ⟨y, _ | ⟨item, rest⟩⟩ <;>
      simp [Except.bind, Except.map, hlisted]
  | object members => simp [Record.read, Record.readWith]
  | null | bool | number | string => simp [Record.read, Record.readWith]

end ContentHub
