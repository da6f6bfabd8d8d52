import ContentHub.Json.Printer
import ContentHub.Json.Relaxed
import Mathlib.Tactic

namespace ContentHub.Json

lemma parse?_eq (text : String) : parse? text = (read? text.toList).map normal :=
  rfl

/-- A document whose objects are in key order, and which its own text stands for. -/
structure Storable (document : Json) : Prop where
  normal : document.normal = document
  readsBack : read? document.chars = some document

/-- A document whose objects are in key order, and in whose text the engine sees what is in it. The
engine goes deeper than the reader, so it sees some documents that cannot be read back. -/
structure Visible (document : Json) : Prop where
  normal : document.normal = document
  seen : readOutline? document.chars = some document.outline

lemma Storable.visible {document : Json} (h : document.Storable) : document.Visible :=
  ⟨h.normal, by rw [readOutline?, h.readsBack]⟩

lemma nul_notMem_of_isDigit (digits : List Char) (h : ∀ c ∈ digits, c.isDigit) :
    '\x00' ∉ digits :=
  fun hmem => absurd (h _ hmem) (by decide)

lemma nul_notMem_digitChars (n : ℕ) : '\x00' ∉ Decimal.digitChars n :=
  nul_notMem_of_isDigit _ fun _ hc => Nat.isDigit_of_mem_toDigits (by decide) (by decide) hc

lemma nul_notMem_wholeChars (n : ℤ) : '\x00' ∉ wholeChars n := by
  simp only [wholeChars]
  split
  · simpa using nul_notMem_digitChars n.natAbs
  · exact nul_notMem_digitChars n.natAbs

lemma nul_notMem_signChars (x : Decimal) : '\x00' ∉ x.signChars := by
  simp only [Decimal.signChars]
  split <;> simp

lemma nul_notMem_positional (x : Decimal) : '\x00' ∉ x.positional := by
  have hd := nul_notMem_digitChars x.digits
  have htake : ∀ k, '\x00' ∉ (Decimal.digitChars x.digits).take k := fun k h =>
    hd (List.mem_of_mem_take h)
  have hdrop : ∀ k, '\x00' ∉ (Decimal.digitChars x.digits).drop k := fun k h =>
    hd (List.mem_of_mem_drop h)
  simp only [Decimal.positional, List.mem_append, not_or]
  refine ⟨nul_notMem_signChars x, ?_⟩
  simp only [Decimal.unsignedPositional]
  split
  · simp [hd, List.mem_replicate]
  · split
    · simp [htake, hdrop]
    · simp [hd, List.mem_replicate]

lemma nul_notMem_scientific (x : Decimal) : '\x00' ∉ x.unsignedScientific := by
  have hd := nul_notMem_digitChars x.digits
  have he := nul_notMem_digitChars (x.pointPosition - 1).natAbs
  simp only [Decimal.unsignedScientific, Decimal.exponentChars, List.mem_append, not_or]
  refine ⟨?_, ?_⟩
  · split
    · simp_all
    · simp_all
    · simp
  · split <;> simpa using he

lemma nul_notMem_compact (x : Decimal) : '\x00' ∉ x.compact := by
  simp only [Decimal.compact]
  split
  · exact nul_notMem_positional x
  · simpa [nul_notMem_signChars x] using nul_notMem_scientific x

lemma nul_notMem_escapedChar (c : Char) : '\x00' ∉ escapedChar c := by
  simp only [escapedChar]
  split_ifs with _ _ _ _ _ _ _ hcontrol
  case pos => simp
  case neg =>
    -- U+0000 itself is a control character, so it is written by number
    rintro hmem
    obtain rfl := List.mem_singleton.mp hmem
    exact hcontrol (by decide)
  all_goals simp_all

lemma nul_notMem_stringChars (s : String) : '\x00' ∉ stringChars s := by
  have hbody : '\x00' ∉ s.toList.flatMap escapedChar := by
    simp only [List.mem_flatMap, not_exists, not_and]
    exact fun c _ => nul_notMem_escapedChar c
  simpa [stringChars] using hbody

mutual

lemma nul_notMem_chars : ∀ value : Json, '\x00' ∉ value.chars
  | .null => by simp [chars]
  | .bool true => by simp [chars]
  | .bool false => by simp [chars]
  | .number (.whole n) => nul_notMem_wholeChars n
  | .number (.pointed x) => nul_notMem_compact x
  | .string s => nul_notMem_stringChars s
  | .array [] => by simp [chars]
  | .array (item :: rest) => by
    simp [chars, nul_notMem_chars item, nul_notMem_itemsTail rest]
  | .object [] => by simp [chars]
  | .object ((key, value) :: rest) => by
    simp [chars, nul_notMem_stringChars key, nul_notMem_chars value, nul_notMem_membersTail rest]

lemma nul_notMem_itemsTail : ∀ items : List Json, '\x00' ∉ itemsTail items
  | [] => by simp [itemsTail]
  | item :: rest => by
    simp [itemsTail, nul_notMem_chars item, nul_notMem_itemsTail rest]

lemma nul_notMem_membersTail : ∀ members : List (String × Json), '\x00' ∉ membersTail members
  | [] => by simp [membersTail]
  | (key, value) :: rest => by
    simp [membersTail, nul_notMem_stringChars key, nul_notMem_chars value,
      nul_notMem_membersTail rest]

end

end ContentHub.Json
