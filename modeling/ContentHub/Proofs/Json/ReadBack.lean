import ContentHub.Proofs.Json.Storable
import ContentHub.Proofs.Json.Tokens
import Mathlib.Tactic

namespace ContentHub.Json

section Readable

variable (decimal? : DecimalReader)

mutual

def Readable : (room : ℕ) → Json → Prop
  | _, .null | _, .bool _ | _, .string _ => True
  | _, .number n => Legible decimal? n
  | 0, .array _ | 0, .object _ => False
  | room + 1, .array items => ItemsReadable room items
  | room + 1, .object members => MembersReadable room members

def ItemsReadable (room : ℕ) : List Json → Prop
  | [] => True
  | item :: rest => Readable room item ∧ ItemsReadable room rest

def MembersReadable (room : ℕ) : List (String × Json) → Prop
  | [] => True
  | (_, value) :: rest => Readable room value ∧ MembersReadable room rest

end

end Readable

variable {decimal? : DecimalReader}

def Blank (s : List Char) : Prop :=
  ∀ c ∈ s, c = ' ' ∨ c = '\n'

mutual

def WrittenAs : Json → List Char → Prop
  | .null, s => s = chars .null
  | .bool b, s => s = chars (.bool b)
  | .number n, s => s = numberChars n
  | .string t, s => s = stringChars t
  | .array [], s => s = ['[', ']']
  | .array (item :: rest), s => ∃ gap text tail, Blank gap ∧ WrittenAs item text ∧
      ItemsWrittenAs rest tail ∧ s = '[' :: (gap ++ (text ++ tail))
  | .object [], s => s = ['{', '}']
  | .object ((key, value) :: rest), s => ∃ gap pause text tail, Blank gap ∧ Blank pause ∧
      WrittenAs value text ∧ MembersWrittenAs rest tail ∧
      s = '{' :: (gap ++ (stringChars key ++ ':' :: (pause ++ (text ++ tail))))

def ItemsWrittenAs : List Json → List Char → Prop
  | [], s => ∃ gap, Blank gap ∧ s = gap ++ [']']
  | item :: rest, s => ∃ gap text tail, Blank gap ∧ WrittenAs item text ∧
      ItemsWrittenAs rest tail ∧ s = ',' :: (gap ++ (text ++ tail))

def MembersWrittenAs : List (String × Json) → List Char → Prop
  | [], s => ∃ gap, Blank gap ∧ s = gap ++ ['}']
  | (key, value) :: rest, s => ∃ gap pause text tail, Blank gap ∧ Blank pause ∧
      WrittenAs value text ∧ MembersWrittenAs rest tail ∧
      s = ',' :: (gap ++ (stringChars key ++ ':' :: (pause ++ (text ++ tail))))

end

section Blanks

variable {gap : List Char}

lemma blank_nil : Blank [] := by
  simp [Blank]

lemma blank_newLine (depth : ℕ) : Blank (newLine depth) := by
  simp +contextual [Blank, newLine]

lemma skipSpaces_blank (h : Blank gap) (s : List Char) :
    skipSpaces (gap ++ s) = skipSpaces s := by
  induction gap with
  | nil => rfl
  | cons c gap ih =>
    obtain ⟨hc, hgap⟩ := List.forall_mem_cons.mp h
    have hspace : isSpace c = true := by
      rcases hc with rfl | rfl <;> rfl
    rw [← ih hgap, List.cons_append, skipSpaces, List.dropWhile_cons_of_pos hspace, skipSpaces]

lemma closed_blank (h : Blank gap) {s : List Char} (hs : Closed s) : Closed (gap ++ s) := by
  cases gap with
  | nil => exact hs
  | cons c gap =>
    rcases h c List.mem_cons_self with rfl | rfl
    · exact .space _
    · exact .line _

lemma valueFrom_blank (h : Blank gap) (fuel room : ℕ) (s : List Char) :
    valueFrom decimal? fuel room (gap ++ s) = valueFrom decimal? fuel room s := by
  cases fuel with
  | zero => rfl
  | succ fuel => simp only [valueFrom, skipSpaces_blank h]

lemma memberKey_blank (h : Blank gap) (s : List Char) : memberKey (gap ++ s) = memberKey s := by
  simp only [memberKey, skipSpaces_blank h]

end Blanks

lemma closed_itemsWrittenAs (items : List Json) {s : List Char} (h : ItemsWrittenAs items s)
    (rest : List Char) : Closed (s ++ rest) := by
  cases items with
  | nil =>
    obtain ⟨gap, hgap, rfl⟩ := h
    rw [List.append_assoc]
    exact closed_blank hgap (.bracket _)
  | cons item items =>
    obtain ⟨gap, text, tail, -, -, -, rfl⟩ := h
    exact .comma _

lemma closed_membersWrittenAs (members : List (String × Json)) {s : List Char}
    (h : MembersWrittenAs members s) (rest : List Char) : Closed (s ++ rest) := by
  rcases members with _ | ⟨⟨key, value⟩, members⟩
  · obtain ⟨gap, hgap, rfl⟩ := h
    rw [List.append_assoc]
    exact closed_blank hgap (.brace _)
  · obtain ⟨gap, pause, text, tail, -, -, -, -, rfl⟩ := h
    exact .comma _

lemma writtenAs_head (room : ℕ) (value : Json) (s : List Char)
    (hreadable : Readable decimal? room value) (h : WrittenAs value s) :
    ∃ c t, s = c :: t ∧ isSpace c = false ∧ c ≠ ']' := by
  cases value with
  | number n =>
    have hlegible : Legible decimal? n := by simpa [Readable] using hreadable
    obtain ⟨c, t, hchars, hc, hspace⟩ := numberValue_head _ _ (numberValue_numberChars n hlegible)
    refine ⟨c, t, h.trans hchars, hspace, ?_⟩
    rintro rfl
    simp at hc
  | bool b => cases b <;> exact ⟨_, _, h, by decide⟩
  | array items =>
    cases items with
    | nil => exact ⟨'[', [']'], h, by decide⟩
    | cons item items =>
      obtain ⟨gap, text, tail, -, -, -, rfl⟩ := h
      exact ⟨'[', _, rfl, by decide⟩
  | object members =>
    rcases members with _ | ⟨⟨key, value⟩, members⟩
    · exact ⟨'{', ['}'], h, by decide⟩
    · obtain ⟨gap, pause, text, tail, -, -, -, -, rfl⟩ := h
      exact ⟨'{', _, rfl, by decide⟩
  | null | string => exact ⟨_, _, h, by decide⟩

-- Along the text: every call of the reader takes at least one of the characters that `fuel` counts.
mutual

lemma valueFrom_writtenAs : ∀ (value : Json) (s : List Char) (room fuel : ℕ) (rest : List Char),
    Readable decimal? room value → WrittenAs value s → s.length < fuel → Closed rest →
      valueFrom decimal? fuel room (s ++ rest) = some (value, rest)
  | _, _, _, 0, _, _, _, hfuel, _ => absurd hfuel (Nat.not_lt_zero _)
  | .null, s, _, fuel + 1, rest, _, hs, _, _ => by
    obtain rfl : s = chars .null := hs
    simp [chars, valueFrom, skipSpaces, isSpace]
  | .bool b, s, _, fuel + 1, rest, _, hs, _, _ => by
    obtain rfl : s = chars (.bool b) := hs
    cases b <;> simp [chars, valueFrom, skipSpaces, isSpace]
  | .number n, s, room, fuel + 1, rest, hreadable, hs, _, hclosed => by
    have hlegible : Legible decimal? n := by simpa [Readable] using hreadable
    obtain rfl : s = numberChars n := hs
    refine valueFrom_of_numberValue fuel room _ _ ?_
    rw [numberValue_append hclosed, numberValue_numberChars n hlegible]
    rfl
  | .string t, s, _, fuel + 1, rest, _, hs, _, _ => by
    obtain rfl : s = stringChars t := hs
    simp [stringChars, valueFrom, skipSpaces, isSpace, stringBody_flatMap]
  | .array _, _, 0, _, _, hreadable, _, _, _ => by simp [Readable] at hreadable
  | .object _, _, 0, _, _, hreadable, _, _, _ => by simp [Readable] at hreadable
  | .array [], s, room + 1, fuel + 1, rest, _, hs, _, _ => by
    obtain rfl : s = ['[', ']'] := hs
    simp [valueFrom, skipSpaces, isSpace]
  | .array (item :: items), s, room + 1, fuel + 1, rest, hreadable, hs, hfuel, _ => by
    simp only [Readable, ItemsReadable] at hreadable
    obtain ⟨gap, text, tail, hgap, htext, htail, rfl⟩ := hs
    simp only [List.length_append, List.length_cons] at hfuel
    have hitem := valueFrom_writtenAs item text room fuel (tail ++ rest) hreadable.1 htext
      (by omega) (closed_itemsWrittenAs items htail rest)
    have hitems := itemsFrom_writtenAs items tail room fuel rest hreadable.2 htail (by omega)
    -- the first item does not start like the end of the array, so the reader goes on to it
    obtain ⟨c, t, rfl, hspace, hclose⟩ := writtenAs_head room item text hreadable.1 htext
    have hopen : isSpace '[' = false := rfl
    rw [List.cons_append] at hitem
    have hskip : skipSpaces (gap ++ (c :: (t ++ (tail ++ rest)))) = c :: (t ++ (tail ++ rest)) := by
      rw [skipSpaces_blank hgap]
      simp [skipSpaces, hspace]
    have hbracket : ∀ s, skipSpaces ('[' :: s) = '[' :: s := fun s => by simp [skipSpaces, hopen]
    simp only [List.cons_append, List.append_assoc, valueFrom, hbracket, hskip]
    simp [hclose, hitem, hitems]
  | .object [], s, room + 1, fuel + 1, rest, _, hs, _, _ => by
    obtain rfl : s = ['{', '}'] := hs
    simp [valueFrom, skipSpaces, isSpace]
  | .object ((key, value) :: members), s, room + 1, fuel + 1, rest, hreadable, hs, hfuel, _ => by
    simp only [Readable, MembersReadable] at hreadable
    obtain ⟨gap, pause, text, tail, hgap, hpause, htext, htail, rfl⟩ := hs
    simp only [List.length_append, List.length_cons] at hfuel
    have hvalue := valueFrom_writtenAs value text room fuel (tail ++ rest) hreadable.1 htext
      (by omega) (closed_membersWrittenAs members htail rest)
    have hmembers := membersFrom_writtenAs members tail room fuel rest hreadable.2 htail (by omega)
    have hkey := memberKey_stringChars key (pause ++ (text ++ (tail ++ rest)))
    have hbrace : ∀ s, skipSpaces ('{' :: s) = '{' :: s := fun s => by simp [skipSpaces, isSpace]
    have hquote : ∀ s, skipSpaces (stringChars key ++ s) = stringChars key ++ s := fun s => by
      simp [skipSpaces, stringChars, isSpace]
    simp only [List.cons_append, List.append_assoc, valueFrom, hbrace, skipSpaces_blank hgap,
      hquote]
    simp only [stringChars, List.cons_append, List.append_assoc, List.nil_append] at hkey ⊢
    simp [hkey, valueFrom_blank hpause, hvalue, hmembers]

lemma itemsFrom_writtenAs : ∀ (items : List Json) (s : List Char) (room fuel : ℕ)
    (rest : List Char), ItemsReadable decimal? room items → ItemsWrittenAs items s →
      s.length < fuel → itemsFrom decimal? fuel room (s ++ rest) = some (items, rest)
  | _, _, _, 0, _, _, _, hfuel => absurd hfuel (Nat.not_lt_zero _)
  | [], s, _, fuel + 1, rest, _, hs, _ => by
    obtain ⟨gap, hgap, rfl⟩ := hs
    rw [List.append_assoc, itemsFrom, skipSpaces_blank hgap]
    simp [skipSpaces, isSpace]
  | item :: items, s, room, fuel + 1, rest, hreadable, hs, hfuel => by
    simp only [ItemsReadable] at hreadable
    obtain ⟨gap, text, tail, hgap, htext, htail, rfl⟩ := hs
    simp only [List.length_append, List.length_cons] at hfuel
    have hitem := valueFrom_writtenAs item text room fuel (tail ++ rest) hreadable.1 htext
      (by omega) (closed_itemsWrittenAs items htail rest)
    have hitems := itemsFrom_writtenAs items tail room fuel rest hreadable.2 htail (by omega)
    simp [itemsFrom, skipSpaces, isSpace, valueFrom_blank hgap, hitem, hitems]

lemma membersFrom_writtenAs : ∀ (members : List (String × Json)) (s : List Char) (room fuel : ℕ)
    (rest : List Char), MembersReadable decimal? room members → MembersWrittenAs members s →
      s.length < fuel → membersFrom decimal? fuel room (s ++ rest) = some (members, rest)
  | _, _, _, 0, _, _, _, hfuel => absurd hfuel (Nat.not_lt_zero _)
  | [], s, _, fuel + 1, rest, _, hs, _ => by
    obtain ⟨gap, hgap, rfl⟩ := hs
    rw [List.append_assoc, membersFrom, skipSpaces_blank hgap]
    simp [skipSpaces, isSpace]
  | (key, value) :: members, s, room, fuel + 1, rest, hreadable, hs, hfuel => by
    simp only [MembersReadable] at hreadable
    obtain ⟨gap, pause, text, tail, hgap, hpause, htext, htail, rfl⟩ := hs
    simp only [List.length_append, List.length_cons] at hfuel
    have hvalue := valueFrom_writtenAs value text room fuel (tail ++ rest) hreadable.1 htext
      (by omega) (closed_membersWrittenAs members htail rest)
    have hmembers := membersFrom_writtenAs members tail room fuel rest hreadable.2 htail (by omega)
    simp [membersFrom, skipSpaces, isSpace, memberKey_blank hgap, memberKey_stringChars,
      valueFrom_blank hpause, hvalue, hmembers]

end

mutual

lemma writtenAs_chars : ∀ value : Json, WrittenAs value value.chars
  | .null => rfl
  | .bool _ => rfl
  | .number _ => rfl
  | .string _ => rfl
  | .array [] => rfl
  | .array (item :: rest) => ⟨[], item.chars, itemsTail rest, blank_nil, writtenAs_chars item,
      itemsWrittenAs_itemsTail rest, by simp [chars]⟩
  | .object [] => rfl
  | .object ((key, value) :: rest) => ⟨[], [], value.chars, membersTail rest, blank_nil, blank_nil,
      writtenAs_chars value, membersWrittenAs_membersTail rest, by simp [chars]⟩

lemma itemsWrittenAs_itemsTail : ∀ items : List Json, ItemsWrittenAs items (itemsTail items)
  | [] => ⟨[], blank_nil, rfl⟩
  | item :: rest => ⟨[], item.chars, itemsTail rest, blank_nil, writtenAs_chars item,
      itemsWrittenAs_itemsTail rest, by simp [itemsTail]⟩

lemma membersWrittenAs_membersTail : ∀ members : List (String × Json),
    MembersWrittenAs members (membersTail members)
  | [] => ⟨[], blank_nil, rfl⟩
  | (key, value) :: rest => ⟨[], [], value.chars, membersTail rest, blank_nil, blank_nil,
      writtenAs_chars value, membersWrittenAs_membersTail rest, by simp [membersTail]⟩

end

mutual

lemma writtenAs_prettyChars : ∀ (depth : ℕ) (value : Json),
    WrittenAs value (value.prettyChars depth)
  | _, .null => rfl
  | _, .bool _ => rfl
  | _, .number _ => rfl
  | _, .string _ => rfl
  | _, .array [] => rfl
  | depth, .array (item :: rest) => ⟨newLine (depth + 1), item.prettyChars (depth + 1),
      prettyItemsTail depth rest, blank_newLine _, writtenAs_prettyChars (depth + 1) item,
      itemsWrittenAs_prettyItemsTail depth rest, by simp [prettyChars]⟩
  | _, .object [] => rfl
  | depth, .object ((key, value) :: rest) => ⟨newLine (depth + 1), [' '],
      value.prettyChars (depth + 1), prettyMembersTail depth rest, blank_newLine _, by simp [Blank],
      writtenAs_prettyChars (depth + 1) value, membersWrittenAs_prettyMembersTail depth rest,
      by simp [prettyChars]⟩

lemma itemsWrittenAs_prettyItemsTail : ∀ (depth : ℕ) (items : List Json),
    ItemsWrittenAs items (prettyItemsTail depth items)
  | depth, [] => ⟨newLine depth, blank_newLine depth, rfl⟩
  | depth, item :: rest => ⟨newLine (depth + 1), item.prettyChars (depth + 1),
      prettyItemsTail depth rest, blank_newLine _, writtenAs_prettyChars (depth + 1) item,
      itemsWrittenAs_prettyItemsTail depth rest, by simp [prettyItemsTail]⟩

lemma membersWrittenAs_prettyMembersTail : ∀ (depth : ℕ) (members : List (String × Json)),
    MembersWrittenAs members (prettyMembersTail depth members)
  | depth, [] => ⟨newLine depth, blank_newLine depth, rfl⟩
  | depth, (key, value) :: rest => ⟨newLine (depth + 1), [' '], value.prettyChars (depth + 1),
      prettyMembersTail depth rest, blank_newLine _, by simp [Blank],
      writtenAs_prettyChars (depth + 1) value, membersWrittenAs_prettyMembersTail depth rest,
      by simp [prettyMembersTail]⟩

end

lemma readWith?_writtenAs {value : Json} {s after : List Char}
    (h : Readable decimal? maxDepth value) (hs : WrittenAs value s) (hafter : Blank after) :
    readWith? decimal? (s ++ after) = some value := by
  have hclosed : Closed after := by
    simpa using closed_blank hafter .finish
  have hskip : skipSpaces after = [] := by
    have hblank := skipSpaces_blank hafter []
    rw [List.append_nil] at hblank
    exact hblank
  have hfuel : s.length < (s ++ after).length + 1 := by
    simp only [List.length_append]
    omega
  rw [readWith?, valueFrom_writtenAs value s maxDepth _ after h hs hfuel hclosed, Option.bind_some]
  simp [hskip]

lemma read?_chars (value : Json) (h : Readable Decimal.ofWritten? maxDepth value) :
    read? value.chars = some value := by
  have hread := readWith?_writtenAs h (writtenAs_chars value) blank_nil
  rwa [List.append_nil] at hread

lemma storable_of_readable (document : Json) (hnormal : document.normal = document)
    (h : Readable Decimal.ofWritten? maxDepth document) : document.Storable :=
  ⟨hnormal, read?_chars document h⟩

lemma parseWith?_pretty (value : Json) (hnormal : value.normal = value)
    (h : Readable decimal? maxDepth value) :
    parseWith? decimal? (value.pretty ++ "\n") = some value := by
  have hline : Blank ['\n'] := by simp [Blank]
  have hchars : (value.pretty ++ "\n").toList = value.prettyChars 0 ++ ['\n'] := by
    simp [pretty]
  rw [parseWith?, hchars, readWith?_writtenAs h (writtenAs_prettyChars 0 value) hline,
    Option.map_some, hnormal]

end ContentHub.Json
