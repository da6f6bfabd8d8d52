import ContentHub.Proofs.Entries
import ContentHub.Proofs.Json.Parts
import ContentHub.Proofs.Json.Shape
import Mathlib.Tactic

namespace ContentHub

variable {α β : Type}

def GivenOr (silent : α) (good : Json → α → Prop) : Option Json → α → Prop
  | none, x => x = silent
  | some value, x => good value x

def Optionally (good : Json → α → Prop) : Option Json → Option α → Prop :=
  Stands (fun value x => ∃ y ∈ x, good value y) none

namespace Shape

variable {read : Json → Shaped α} {good : Json → α → Prop}

lemma reads_givenOr (h : ∀ value x, read value = .ok x ↔ good value x) (silent : α) :
    Reads read silent (GivenOr silent good) :=
  ⟨h, fun _ => Iff.rfl⟩

lemma reads_optionally (h : ∀ value x, read value = .ok x ↔ good value x) :
    Reads (optional read) none (Optionally good) := by
  apply reads_stands
  intro value x
  simp only [optional_eq_ok, h]

lemma word_eq_ok (value : Json) (n : UInt32) : word value = .ok n ↔ value = .whole n.toNat := by
  constructor
  · intro h
    unfold word at h
    split at h
    · next m =>
      split at h
      · next hm =>
        obtain rfl := Except.ok.inj h
        have hlt : m.toNat < UInt32.size := by omega
        rw [UInt32.toNat_ofNat_of_lt' hlt, Int.toNat_of_nonneg hm.1, Json.whole]
      · cases h
    · cases h
  · rintro rfl
    have hn : (0 : ℤ) ≤ n.toNat ∧ (n.toNat : ℤ) < UInt32.size := by
      have hlt := n.toNat_lt_size
      omega
    rw [Json.whole, word, if_pos hn, Int.toNat_natCast, UInt32.ofNat_toNat]

end Shape

def NamedBy (name : α → String) (value : Json) (x : α) : Prop :=
  value = .string (name x) ∨ value = .object [(name x, .null)]

lemma Shape.variantNamed_eq_ok {known : Entries α} {name : α → String}
    (hknown : ∀ entry ∈ known, entry.1 = name entry.2)
    (hname : ∀ x, Entries.get? (name x) known = some x) (s : String) (x : α) :
    variantNamed known s = .ok x ↔ s = name x := by
  have hget : Entries.get? s known = some x ↔ s = name x := by
    constructor
    · intro h
      exact hknown _ (Entries.mem_of_get? s known x h)
    · rintro rfl
      exact hname x
  rw [← hget, variantNamed]
  cases Entries.get? s known <;> simp

lemma Shape.variant_eq_ok {known : Entries α} {name : α → String}
    (hknown : ∀ entry ∈ known, entry.1 = name entry.2)
    (hname : ∀ x, Entries.get? (name x) known = some x) (value : Json) (x : α) :
    variant known value = .ok x ↔ NamedBy name value x := by
  have hnamed := fun s => variantNamed_eq_ok hknown hname s x
  unfold variant NamedBy
  split
  · simp [hnamed]
  · next s given =>
    cases hread : variantNamed known s with
    | error fault =>
      have hother : s ≠ name x := fun h => by cases hread.symm.trans ((hnamed s).mpr h)
      simp [Except.bind, hother]
    | ok y =>
      have hsame : y = x ↔ s = name x := by rw [← hnamed, hread, Except.ok.injEq]
      cases given <;> simp [Except.bind, hsame]
  · next members hseveral =>
    have hpair : members ≠ [(name x, .null)] := fun h => hseveral _ _ h
    simp [hpair]
  · next hstring _ hobject =>
    have hnever : ¬(value = .string (name x) ∨ value = .object [(name x, .null)]) := by
      rintro (h | h)
      · exact hstring _ h
      · exact hobject _ h
    simp [hnever]

lemma Listed.next_bind_eq_ok {read : Json → Shaped α} {silent : α}
    {stands : Option Json → α → Prop} (h : Shape.Reads read silent stands) {fields : List String}
    (hfields : fields.Nodup) (i : ℕ) (key : String) (hkey : fields[i]? = some key)
    (rest : α → Listed β) (items : List Json) (result : β × List Json) :
    (next read (.ok silent) >>= rest) (items.drop i) = .ok result ↔
      ∃ x, stands (Entries.get? key (fields.zip items)) x ∧
        rest x (items.drop (i + 1)) = .ok result := by
  simp only [bind_eq_ok, next_reads h, List.head?_drop, List.tail_drop,
    Entries.get?_zip fields items hfields i key hkey]
  constructor
  · rintro ⟨x, _, ⟨hx, rfl⟩, hresult⟩
    exact ⟨x, hx, hresult⟩
  · rintro ⟨x, hx, hresult⟩
    exact ⟨x, _, ⟨hx, rfl⟩, hresult⟩

namespace Record

/-- A record is written as an object with its fields, or as the array of the first of them. -/
inductive Written (fields : List String) (told : (String → Option Json) → α → Prop) :
    Json → α → Prop
  | keyed {members : List (String × Json)} {x : α}
      (h : told (fun key => Entries.get? key members) x) : Written fields told (.object members) x
  | listed {items : List Json} {x : α} (hlength : items.length ≤ fields.length)
      (h : told (fun key => Entries.get? key (fields.zip items)) x) :
      Written fields told (.array items) x

lemma read_eq_ok_iff_written {record : Record α} {fields : List String}
    {told : (String → Option Json) → α → Prop}
    (hkeyed : ∀ find x, record.keyed find = .ok x ↔ told find x)
    (hlisted : ∀ items x, record.listed items = .ok (x, []) ↔
      items.length ≤ fields.length ∧ told (fun key => Entries.get? key (fields.zip items)) x)
    (value : Json) (x : α) : record.read value = .ok x ↔ Written fields told value x := by
  simp only [read_eq_ok, hkeyed, hlisted]
  constructor
  · rintro (⟨members, rfl, h⟩ | ⟨items, rfl, hlength, h⟩)
    · exact .keyed h
    · exact .listed hlength h
  · rintro (h | ⟨hlength, h⟩)
    · exact Or.inl ⟨_, rfl, h⟩
    · exact Or.inr ⟨_, rfl, hlength, h⟩

end Record

def Orderless (stands : Option Json → α → Prop) : Prop :=
  ∀ found x, (∀ value ∈ found, value.Distinct) → stands found x → stands (found.map Json.normal) x

section Orderless

variable {good : Json → α → Prop}

lemma orderless_givenOr (h : ∀ value x, value.Distinct → good value x → good value.normal x)
    (silent : α) : Orderless (GivenOr silent good) := by
  intro found x hfound hx
  cases found with
  | none => exact hx
  | some value => exact h value x (hfound value rfl) hx

lemma orderless_optionally (h : ∀ value x, value.Distinct → good value x → good value.normal x) :
    Orderless (Optionally good) := by
  intro found x hfound hx
  rcases hx with _ | _ | ⟨hvalue, y, hy, hgood⟩
  · exact .absent
  · exact .null
  · exact .given (mt (Json.normal_eq_null_iff _).mp hvalue) ⟨y, hy, h _ y (hfound _ rfl) hgood⟩

lemma NamedBy.normal {name : α → String} (value : Json) (x : α) (_ : value.Distinct)
    (h : NamedBy name value x) : NamedBy name value.normal x := by
  rcases h with rfl | rfl
  · exact Or.inl rfl
  · exact Or.inr rfl

lemma Record.Written.normal {fields : List String} {told : (String → Option Json) → α → Prop}
    (htold : ∀ find x, (∀ key, ∀ value ∈ find key, value.Distinct) → told find x →
      told (fun key => (find key).map Json.normal) x)
    (value : Json) (x : α) (hvalue : value.Distinct) (h : Written fields told value x) :
    Written fields told value.normal x := by
  cases h with
  | @keyed members _ h =>
    have hnodup : (Entries.keys members).Nodup := hvalue members (.self _)
    rw [Json.normal]
    refine .keyed ?_
    simp only [Json.get?_normal hnodup]
    refine htold _ x (fun key value hfound => ?_) h
    exact hvalue.member (Entries.mem_of_get? key members value hfound)
  | @listed items _ hlength h =>
    have hzip : ∀ key, Entries.get? key (fields.zip (items.map Json.normal)) =
        (Entries.get? key (fields.zip items)).map Json.normal := fun key => by
      rw [List.zip_map_right, ← Entries.get?_map]
      rfl
    rw [Json.normal, Json.normalItems_eq_map]
    refine .listed (by rwa [List.length_map]) ?_
    simp only [hzip]
    refine htold _ x (fun key value hfound => ?_) h
    have hmem := Entries.mem_of_get? key _ value hfound
    exact hvalue.item (List.of_mem_zip hmem).2

end Orderless

end ContentHub
