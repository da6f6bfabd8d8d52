import ContentHub.Proofs.Json.RelaxedTokens
import ContentHub.Proofs.Json.Storable
import Mathlib.Tactic

namespace ContentHub.Json

namespace Relaxed

lemma skipFiller_cons {c : Char} (hslash : c ≠ '/') (hspace : isSpace c = false) (s : List Char) :
    skipFiller (c :: s) = c :: s := by
  rw [skipFiller, List.length_cons, skip.eq_def]
  dsimp only
  split
  · next heq => exact absurd (List.cons.inj heq).1 hslash
  · next heq => exact absurd (List.cons.inj heq).1 hslash
  · next d t _ _ heq =>
    obtain ⟨rfl, rfl⟩ := List.cons.inj heq
    rw [hspace]
    rfl
  · next heq => cases heq

lemma isSpace_of_isDigit {d : Char} (h : d.isDigit = true) : isSpace d = false := by
  have hrange := isDigit_range h
  have hblank : d ≠ ' ' := by
    rintro rfl
    simp at h
  simp [isSpace, hblank]
  omega

end Relaxed

mutual

def within : (room : ℕ) → Json → Bool
  | _, .null | _, .bool _ | _, .string _ => true
  | _, .number n => Relaxed.proper n
  | 0, .array _ | 0, .object _ => false
  | room + 1, .array items => itemsWithin room items
  | room + 1, .object members => membersWithin room members

def itemsWithin (room : ℕ) : List Json → Bool
  | [] => true
  | item :: rest => within room item && itemsWithin room rest

def membersWithin (room : ℕ) : List (String × Json) → Bool
  | [] => true
  | (_, value) :: rest => within room value && membersWithin room rest

end

namespace Relaxed

lemma numberChars_head (n : Number) :
    ∃ c s, numberChars n = c :: s ∧ (c = '-' ∨ c.isDigit = true) := by
  obtain ⟨t, ht, hchars⟩ := numberChars_cases n
  obtain ⟨d, u, rfl, hd⟩ := ht.head
  rcases hchars with hchars | hchars
  · exact ⟨d, u, hchars, Or.inr hd⟩
  · exact ⟨'-', d :: u, hchars, Or.inl rfl⟩

lemma valueFrom_number (fuel room : ℕ) (n : Number) {rest : List Char} (h : Closed rest) :
    valueFrom (fuel + 1) room (numberChars n ++ rest) =
      bif proper n then some (.other, rest) else none := by
  have hread := plainValue?_numberChars n h
  obtain ⟨c, s, hchars, hhead⟩ := numberChars_head n
  have hskip : skipFiller (c :: (s ++ rest)) = c :: (s ++ rest) := by
    rcases hhead with rfl | hdigit
    · exact skipFiller_cons (by decide) (by decide) _
    · refine skipFiller_cons ?_ (isSpace_of_isDigit hdigit) _
      rintro rfl
      simp at hdigit
  rw [hchars, List.cons_append] at hread ⊢
  rw [valueFrom, hskip]
  split
  · next heq =>
    obtain ⟨rfl, -⟩ := List.cons.inj heq
    simp at hhead
  · next heq =>
    obtain ⟨rfl, -⟩ := List.cons.inj heq
    simp at hhead
  · next heq =>
    obtain ⟨rfl, -⟩ := List.cons.inj heq
    simp at hhead
  · next heq =>
    obtain ⟨rfl, -⟩ := List.cons.inj heq
    simp at hhead
  · exact hread

lemma key?_escaped (key : String) (s : List Char) :
    key? ('"' :: (key.toList.flatMap escapedChar ++ '"' :: s)) = some (textCodes key, s) :=
  stringCodes_escaped key.toList s

lemma chars_head (value : Json) :
    ∃ c s, value.chars = c :: s ∧ c ≠ '/' ∧ isSpace c = false ∧ c ≠ ']' := by
  cases value with
  | number n =>
    obtain ⟨c, s, hchars, hhead⟩ := numberChars_head n
    refine ⟨c, s, by simpa [chars] using hchars, ?_⟩
    rcases hhead with rfl | hdigit
    · decide
    · refine ⟨?_, isSpace_of_isDigit hdigit, ?_⟩
      · rintro rfl
        simp at hdigit
      · rintro rfl
        simp at hdigit
  | null => exact ⟨_, _, by rw [chars], by decide⟩
  | bool b => cases b <;> exact ⟨_, _, by rw [chars], by decide⟩
  | string s => exact ⟨_, _, by rw [chars, stringChars]; rfl, by decide⟩
  | array items =>
    cases items with
    | nil => exact ⟨_, _, by rw [chars], by decide⟩
    | cons item items => exact ⟨'[', _, by rw [chars]; rfl, by decide⟩
  | object members =>
    rcases members with _ | ⟨⟨key, value⟩, members⟩
    · exact ⟨_, _, by rw [chars], by decide⟩
    · exact ⟨'{', _, by rw [chars]; rfl, by decide⟩

def itemsChars : List Json → List Char
  | [] => [']']
  | item :: items => item.chars ++ itemsTail items

def membersChars : List (String × Json) → List Char
  | [] => ['}']
  | (key, value) :: members => stringChars key ++ ':' :: (value.chars ++ membersTail members)

lemma chars_array (items : List Json) : chars (.array items) = '[' :: itemsChars items := by
  cases items <;> simp [chars, itemsChars]

lemma chars_object (members : List (String × Json)) :
    chars (.object members) = '{' :: membersChars members := by
  rcases members with _ | ⟨⟨key, value⟩, members⟩ <;> simp [chars, membersChars]

lemma itemsTail_cases (items : List Json) :
    (items = [] ∧ itemsTail items = [']']) ∨ itemsTail items = ',' :: itemsChars items := by
  cases items <;> simp [itemsTail, itemsChars]

lemma membersTail_cases (members : List (String × Json)) :
    (members = [] ∧ membersTail members = ['}']) ∨
      membersTail members = ',' :: membersChars members := by
  rcases members with _ | ⟨⟨key, value⟩, members⟩ <;> simp [membersTail, membersChars]

lemma closed_itemsTail (items : List Json) (rest : List Char) :
    Closed (itemsTail items ++ rest) := by
  cases items with
  | nil => exact .bracket _
  | cons item items => exact .comma _

lemma closed_membersTail (members : List (String × Json)) (rest : List Char) :
    Closed (membersTail members ++ rest) := by
  rcases members with _ | ⟨⟨key, value⟩, members⟩
  · exact .brace _
  · exact .comma _

lemma skipFiller_comma (s : List Char) : skipFiller (',' :: s) = ',' :: s :=
  skipFiller_cons (by decide) (by decide) s

lemma skipFiller_bracket (s : List Char) : skipFiller (']' :: s) = ']' :: s :=
  skipFiller_cons (by decide) (by decide) s

lemma skipFiller_brace (s : List Char) : skipFiller ('}' :: s) = '}' :: s :=
  skipFiller_cons (by decide) (by decide) s

lemma skipFiller_colon (s : List Char) : skipFiller (':' :: s) = ':' :: s :=
  skipFiller_cons (by decide) (by decide) s

lemma skipFiller_quote (s : List Char) : skipFiller ('"' :: s) = '"' :: s :=
  skipFiller_cons (by decide) (by decide) s

mutual

lemma valueFrom_chars : ∀ (value : Json) (room fuel : ℕ) (rest : List Char),
    value.chars.length < fuel → Closed rest → valueFrom fuel room (value.chars ++ rest) =
      bif within room value then some (value.outline, rest) else none
  | _, _, 0, _, hfuel, _ => absurd hfuel (Nat.not_lt_zero _)
  | .null, _, fuel + 1, rest, _, hclosed => by
    have hskip : skipFiller ('n' :: 'u' :: 'l' :: 'l' :: rest) = 'n' :: 'u' :: 'l' :: 'l' :: rest :=
      skipFiller_cons (by decide) (by decide) _
    simp only [chars, List.cons_append, List.nil_append, valueFrom, hskip, within]
    cases hclosed <;> rfl
  | .bool true, _, fuel + 1, rest, _, hclosed => by
    have hskip : skipFiller ('t' :: 'r' :: 'u' :: 'e' :: rest) = 't' :: 'r' :: 'u' :: 'e' :: rest :=
      skipFiller_cons (by decide) (by decide) _
    simp only [chars, List.cons_append, List.nil_append, valueFrom, hskip, within]
    cases hclosed <;> rfl
  | .bool false, _, fuel + 1, rest, _, hclosed => by
    have hskip : skipFiller ('f' :: 'a' :: 'l' :: 's' :: 'e' :: rest) =
        'f' :: 'a' :: 'l' :: 's' :: 'e' :: rest :=
      skipFiller_cons (by decide) (by decide) _
    simp only [chars, List.cons_append, List.nil_append, valueFrom, hskip, within]
    cases hclosed <;> rfl
  | .number n, room, fuel + 1, rest, _, hclosed => by
    have hwithin : within room (.number n) = proper n := by rw [within]
    simp only [hwithin, chars, outline]
    exact valueFrom_number fuel room n hclosed
  | .string s, _, fuel + 1, rest, _, _ => by
    have hcodes := stringCodes_escaped s.toList rest
    simp [chars, stringChars, valueFrom, skipFiller_quote, hcodes, outline, textCodes, within]
  | .array items, room, fuel + 1, rest, hfuel, _ => by
    rw [chars_array, List.length_cons] at hfuel
    have hskip : skipFiller ('[' :: (itemsChars items ++ rest)) =
        '[' :: (itemsChars items ++ rest) :=
      skipFiller_cons (by decide) (by decide) _
    simp only [chars_array, List.cons_append, valueFrom, hskip]
    cases room with
    | zero => rfl
    | succ room =>
      simp only [itemsFrom_chars items room fuel rest (by omega), within, outline]
      cases itemsWithin room items <;> rfl
  | .object members, room, fuel + 1, rest, hfuel, _ => by
    rw [chars_object, List.length_cons] at hfuel
    have hskip : skipFiller ('{' :: (membersChars members ++ rest)) =
        '{' :: (membersChars members ++ rest) :=
      skipFiller_cons (by decide) (by decide) _
    simp only [chars_object, List.cons_append, valueFrom, hskip]
    cases room with
    | zero => rfl
    | succ room =>
      simp only [membersFrom_chars members room fuel rest (by omega), within, outline]
      cases membersWithin room members <;> rfl

lemma itemsFrom_chars : ∀ (items : List Json) (room fuel : ℕ) (rest : List Char),
    (itemsChars items).length < fuel → itemsFrom fuel room (itemsChars items ++ rest) =
      bif itemsWithin room items then some rest else none
  | _, _, 0, _, hfuel => absurd hfuel (Nat.not_lt_zero _)
  | [], _, fuel + 1, rest, _ => by
    simp [itemsFrom, itemsChars, skipFiller_bracket, itemsWithin]
  | item :: items, room, fuel + 1, rest, hfuel => by
    simp only [itemsChars, List.length_append] at hfuel
    have htail := itemsTail_cases items
    have hlength : 0 < (itemsTail items).length := by
      rcases htail with ⟨-, htail⟩ | htail <;> simp [htail]
    have hitem := valueFrom_chars item room fuel (itemsTail items ++ rest) (by omega)
      (closed_itemsTail items rest)
    obtain ⟨c, s, hchars, hslash, hspace, hclose⟩ := chars_head item
    rw [hchars, List.cons_append] at hitem
    simp only [itemsFrom, itemsChars, hchars, List.cons_append, List.append_assoc,
      skipFiller_cons hslash hspace, itemsWithin]
    cases hfirst : within room item with
    | false => simp [hclose, hitem, hfirst]
    | true =>
      simp only [hfirst, cond_true] at hitem
      rcases htail with ⟨rfl, htail⟩ | htail
      · simp only [htail, List.cons_append, List.nil_append] at hitem
        simp [hclose, hitem, htail, skipFiller_bracket, itemsWithin]
      · rw [htail, List.length_cons] at hfuel
        simp only [htail, List.cons_append] at hitem
        have hitems := itemsFrom_chars items room fuel rest (by omega)
        simp [hclose, hitem, htail, skipFiller_comma, hitems]

lemma membersFrom_chars : ∀ (members : List (String × Json)) (room fuel : ℕ) (rest : List Char),
    (membersChars members).length < fuel → membersFrom fuel room (membersChars members ++ rest) =
      bif membersWithin room members then some (outlineMembers members, rest) else none
  | _, _, 0, _, hfuel => absurd hfuel (Nat.not_lt_zero _)
  | [], _, fuel + 1, rest, _ => by
    simp [membersFrom, membersChars, skipFiller_brace, outlineMembers, membersWithin]
  | (key, value) :: members, room, fuel + 1, rest, hfuel => by
    simp only [membersChars, List.length_append, List.length_cons] at hfuel
    have htail := membersTail_cases members
    have hlength : 0 < (membersTail members).length := by
      rcases htail with ⟨-, htail⟩ | htail <;> simp [htail]
    have hvalue := valueFrom_chars value room fuel (membersTail members ++ rest) (by omega)
      (closed_membersTail members rest)
    simp only [membersFrom, membersChars, stringChars, List.append_assoc, List.cons_append,
      List.nil_append, skipFiller_quote, membersWithin]
    cases hfirst : within room value with
    | false => simp [key?_escaped, skipFiller_colon, hvalue, hfirst]
    | true =>
      simp only [hfirst, cond_true] at hvalue
      rcases htail with ⟨rfl, htail⟩ | htail
      · simp only [htail, List.cons_append, List.nil_append] at hvalue
        simp [key?_escaped, hvalue, htail, skipFiller_colon, skipFiller_brace, outlineMembers,
          membersWithin]
      · rw [htail, List.length_cons] at hfuel
        simp only [htail, List.cons_append] at hvalue
        have hmembers := membersFrom_chars members room fuel rest (by omega)
        cases hrest : membersWithin room members <;>
          simp [key?_escaped, hvalue, htail, skipFiller_colon, skipFiller_comma, hmembers, hrest,
            outlineMembers]

end

end Relaxed

lemma readRelaxed?_chars (document : Json) :
    readRelaxed? document.chars =
      bif document.within Relaxed.maxDepth then some document.outline else none := by
  have hvalue := Relaxed.valueFrom_chars document Relaxed.maxDepth
    (2 * document.chars.length + 2) [] (by omega) .finish
  rw [List.append_nil] at hvalue
  rw [readRelaxed?, hvalue]
  cases document.within Relaxed.maxDepth <;> rfl

lemma visible_of_within (document : Json) (hnormal : document.normal = document)
    (hread : ∀ other, read? document.chars = some other → other = document)
    (h : document.within Relaxed.maxDepth = true) : document.Visible := by
  refine ⟨hnormal, ?_⟩
  cases hstrict : read? document.chars with
  | some other => rw [readOutline?, hstrict, hread other hstrict]
  | none => simp [readOutline?, hstrict, readRelaxed?_chars, h]

lemma unseen_of_not_within (document : Json) (hread : read? document.chars = none)
    (h : document.within Relaxed.maxDepth = false) : readOutline? document.chars = none := by
  simp [readOutline?, hread, readRelaxed?_chars, h]

def inArrays (depth : ℕ) (value : Json) : Json :=
  Nat.repeat (fun value => .array [value]) depth value

lemma isSpace_of_relaxed {c : Char} (h : Relaxed.isSpace c = false) : isSpace c = false := by
  by_contra hspace
  simp only [isSpace, Bool.not_eq_false, Bool.or_eq_true, beq_iff_eq] at hspace
  rcases hspace with ((rfl | rfl) | rfl) | rfl <;> cases h

lemma valueFrom_inArrays (decimal? : DecimalReader) (depth fuel room : ℕ) (value : Json)
    (rest : List Char) (h : room < depth) :
    valueFrom decimal? fuel room ((inArrays depth value).chars ++ rest) = none := by
  induction depth generalizing fuel room rest with
  | zero => omega
  | succ depth ih =>
    have hchars : (inArrays (depth + 1) value).chars ++ rest =
        '[' :: ((inArrays depth value).chars ++ (']' :: rest)) := by
      simp [inArrays, Nat.repeat, chars, itemsTail]
    cases fuel with
    | zero => rfl
    | succ fuel =>
      cases room with
      | zero => simp [hchars, valueFrom, skipSpaces, isSpace]
      | succ room =>
        have hitem := ih fuel room (']' :: rest) (by omega)
        obtain ⟨c, s, hhead, -, hspace, hclose⟩ := Relaxed.chars_head (inArrays depth value)
        have hskip : ∀ t, skipSpaces (c :: t) = c :: t := fun t => by
          simp [skipSpaces, isSpace_of_relaxed hspace]
        have hopen : ∀ t, skipSpaces ('[' :: t) = '[' :: t := fun t => by
          simp [skipSpaces, isSpace]
        rw [hhead, List.cons_append] at hitem
        rw [hchars, hhead, List.cons_append]
        simp [valueFrom, hopen, hskip, hclose, hitem]

lemma valueFrom_member_inArrays (decimal? : DecimalReader) (key : String) (depth fuel room : ℕ)
    (value : Json) (rest : List Char) (h : room < depth) :
    valueFrom decimal? fuel (room + 1)
      ('{' :: (stringChars key ++ ':' :: ((inArrays depth value).chars ++ rest))) = none := by
  cases fuel with
  | zero => rfl
  | succ fuel =>
    have hvalue := valueFrom_inArrays decimal? depth fuel room value rest h
    have hbrace : ∀ s, skipSpaces ('{' :: s) = '{' :: s := fun s => by simp [skipSpaces, isSpace]
    have hquote : ∀ s, skipSpaces ('"' :: s) = '"' :: s := fun s => by simp [skipSpaces, isSpace]
    have hkey := memberKey_stringChars key ((inArrays depth value).chars ++ rest)
    simp only [stringChars, List.cons_append, List.append_assoc, List.nil_append] at hkey
    simp [stringChars, valueFrom, hbrace, hquote, hkey, hvalue]

lemma read?_inArrays (key : String) (depth : ℕ) (value : Json) (members : List (String × Json))
    (h : maxDepth ≤ depth) :
    read? (chars (.object ((key, inArrays depth value) :: members))) = none := by
  have hvalue := fun fuel => valueFrom_member_inArrays Decimal.ofWritten? key depth fuel 126 value
    (membersTail members) h
  simp only [read?, readWith?, chars, List.cons_append, List.append_assoc, maxDepth, hvalue,
    Option.bind_none]

lemma normal_inArrays (depth : ℕ) (value : Json) :
    (inArrays depth value).normal = inArrays depth value.normal := by
  induction depth with
  | zero => rfl
  | succ depth ih => simpa [inArrays, Nat.repeat, normal, normalItems] using ih

lemma within_inArrays (depth room : ℕ) (value : Json) :
    within room (inArrays depth value) =
      (decide (depth ≤ room) && within (room - depth) value) := by
  induction depth generalizing room with
  | zero => simp [inArrays, Nat.repeat]
  | succ depth ih =>
    have hnext : inArrays (depth + 1) value = .array [inArrays depth value] := rfl
    cases room with
    | zero => simp [hnext, within]
    | succ room => simp [hnext, within, itemsWithin, ih]

end ContentHub.Json
