import ContentHub.Proofs.Entries
import ContentHub.Store.Collection
import ContentHub.Store.Label
import Mathlib.Data.List.TakeWhile
import Mathlib.Tactic

/-!
How the database engine walks down a document. A path is written with one quoted label for each of
its keys, and reading it back finds the keys again. The engine then goes to the first member that
the label spells; for keys without backslash and U+0000 that is the first member whose key, cut at
its first U+0000, is the key asked for.
-/

namespace ContentHub.Store

def Path.Plain (path : Path) : Prop :=
  ∀ key ∈ path, '\\' ∉ key.toList ∧ '\x00' ∉ key.toList

def Path.Whole (path : Path) : Prop :=
  ∀ key ∈ path, '\x00' ∉ key.toList

lemma Path.Plain.whole {path : Path} (h : path.Plain) : path.Whole :=
  fun key hkey => (h key hkey).2

def Path.quoting (path : Path) : Bool :=
  path.any fun key => key.toList.contains '"'

lemma pathText?_eq (path : Path) :
    pathText? path = if path.quoting then none else some ('$' :: path.flatMap quotedLabel) := rfl

lemma labelSteps_quotedLabel (key : String) (rest : List Char) (h : '"' ∉ key.toList) :
    labelSteps (quotedLabel key ++ rest) = .member key.toList :: labelSteps rest := by
  have htake : (key.toList ++ '"' :: rest).takeWhile (· ≠ '"') = key.toList := by
    rw [List.takeWhile_append_of_pos fun c hc => by simpa using ne_of_mem_of_not_mem hc h]
    simp
  have hdrop : (key.toList ++ '"' :: rest).drop (key.toList.length + 1) = rest := by
    rw [List.drop_append]
    simp
  have happend : quotedLabel key ++ rest = '.' :: '"' :: (key.toList ++ '"' :: rest) := by
    simp [quotedLabel]
  rw [happend, labelSteps, htake, if_pos (by simp), hdrop]

lemma pathSteps_flatMap (path : Path) (h : path.quoting = false) :
    pathSteps ('$' :: path.flatMap quotedLabel) = path.map fun key => .member key.toList := by
  simp only [pathSteps]
  induction path with
  | nil => simp [labelSteps]
  | cons key rest ih =>
    simp only [Path.quoting, List.any_cons, Bool.or_eq_false_iff] at h
    obtain ⟨hkey, hrest⟩ := h
    rw [List.flatMap_cons, labelSteps_quotedLabel key _ (by simpa using hkey), ih hrest,
      List.map_cons]

lemma upToNul_eq_self (s : List Char) (h : '\x00' ∉ s) : upToNul s = s := by
  refine List.takeWhile_eq_self_iff.mpr fun c hc => ?_
  simpa using ne_of_mem_of_not_mem hc h

lemma nul_notMem_flatMap_quotedLabel (path : Path) (h : path.Whole) :
    '\x00' ∉ '$' :: path.flatMap quotedLabel := by
  have hlabels : ∀ key ∈ path, '\x00' ∉ quotedLabel key := fun key hkey => by
    simp [quotedLabel, h key hkey]
  simpa using hlabels

def cutKey (key : String) : List Char :=
  upToNul key.toList

/-- The value at the end of a path when keys are read up to their first U+0000. Of several members
with one such key the first counts. -/
def resolveCut : Path → Json → Option Json
  | [], node => some node
  | key :: rest, .object members =>
    (members.find? fun member => cutKey member.1 == key.toList).bind fun member =>
      resolveCut rest member.2
  | _ :: _, _ => none

lemma upToZero_textCodes (s : List Char) :
    Label.upToZero (s.map Char.toNat) = (upToNul s).map Char.toNat := by
  have hzero : ∀ c : Char, decide (c.toNat ≠ 0) = decide (c ≠ '\x00') := fun c => by
    refine decide_eq_decide.mpr (not_congr ⟨fun hc => ?_, fun hc => by simp [hc]⟩)
    exact Char.toNat_inj.mp hc
  simp only [Label.upToZero, upToNul, List.takeWhile_map, Function.comp_def, hzero]

lemma map_toNat_inj (s t : List Char) : s.map Char.toNat = t.map Char.toNat ↔ s = t :=
  (List.map_injective_iff.mpr fun _ _ h => Char.toNat_inj.mp h).eq_iff

lemma spells_iff (key stored : String) (hslash : '\\' ∉ key.toList) (hnul : '\x00' ∉ key.toList) :
    Label.spells key.toList (Json.textCodes stored) = (cutKey stored == key.toList) := by
  have hcodes : Json.codes key.toList = key.toList.map Char.toNat := by
    simp [Json.codes, hslash]
  rw [Bool.eq_iff_iff]
  simp only [Label.spells, hcodes, Json.textCodes, upToZero_textCodes, upToNul_eq_self _ hnul,
    beq_iff_eq, map_toNat_inj, cutKey]
  exact eq_comm

lemma outlineMembers_eq_map (members : List (String × Json)) :
    Json.outlineMembers members =
      members.map fun member => (Json.textCodes member.1, member.2.outline) := by
  induction members with
  | nil => rfl
  | cons member rest ih => simp [Json.outlineMembers, ih]

/-- The value at the end of a path for the engine. Of several members that a label spells the first
counts. -/
def resolveSpelled : Path → Json → Option Json
  | [], node => some node
  | key :: rest, .object members =>
    (members.find? fun member => Label.spells key.toList (Json.textCodes member.1)).bind
      fun member => resolveSpelled rest member.2
  | _ :: _, _ => none

lemma resolveSpelled_of_plain (path : Path) (h : path.Plain) (node : Json) :
    resolveSpelled path node = resolveCut path node := by
  induction path generalizing node with
  | nil => rfl
  | cons key rest ih =>
    obtain ⟨hslash, hnul⟩ := h key (by simp)
    have hrest : ∀ node, resolveSpelled rest node = resolveCut rest node :=
      ih fun k hk => h k (by simp [hk])
    cases node with
    | object members => simp only [resolveSpelled, resolveCut, spells_iff key _ hslash hnul, hrest]
    | null | bool | number | string | array => rfl

lemma follow_members (text : List Char) (path : Path) (node : Json) :
    follow text (path.map fun key => .member key.toList) node.outline =
      .ok ((resolveSpelled path node).map Json.outline) := by
  induction path generalizing node with
  | nil => rfl
  | cons key rest ih =>
    cases node with
    | object members =>
      simp only [List.map_cons, Json.outline, outlineMembers_eq_map, follow, List.find?_map,
        Function.comp_def, resolveSpelled]
      cases members.find? fun member => Label.spells key.toList (Json.textCodes member.1) with
      | none => rfl
      | some member => exact ih member.2
    | null | bool | number | string | array => rfl

lemma lookUp_outline (path : Path) (hwhole : path.Whole) (hquote : path.quoting = false)
    (document : Json) :
    lookUp ('$' :: path.flatMap quotedLabel) document.outline =
      .ok ((resolveSpelled path document).map Json.outline) := by
  rw [lookUp, upToNul_eq_self _ (nul_notMem_flatMap_quotedLabel path hwhole),
    pathSteps_flatMap path hquote, follow_members]

lemma acceptsOutline_map_outline (filter : Filter) (node : Option Json) :
    filter.acceptsOutline (node.map Json.outline) = filter.accepts node := by
  cases node with
  | none => cases filter <;> rfl
  | some value =>
    cases filter with
    | present path => cases value <;> rfl
    | equals path text =>
      cases value with
      | string s =>
        rw [Bool.eq_iff_iff]
        simp [Filter.acceptsOutline, Filter.accepts, Json.outline, Json.textCodes, map_toNat_inj,
          String.toList_inj]
      | null | bool | number | array | object => rfl

mutual

def KeysClear : Json → Prop
  | .object members => MembersClear members
  | _ => True

def MembersClear : List (String × Json) → Prop
  | [] => True
  | (key, value) :: rest => '\x00' ∉ key.toList ∧ KeysClear value ∧ MembersClear rest

end

lemma cutKey_eq_toList (key : String) (h : '\x00' ∉ key.toList) : cutKey key = key.toList :=
  upToNul_eq_self _ h

lemma find?_cutKey (key : String) (members : List (String × Json)) (h : MembersClear members) :
    (members.find? fun member => cutKey member.1 == key.toList).map Prod.snd =
      Entries.get? key members := by
  induction members with
  | nil => rfl
  | cons member rest ih =>
    obtain ⟨k, value⟩ := member
    obtain ⟨hkey, -, hrest⟩ := h
    have hcut : (cutKey k == key.toList) = decide (k = key) := by
      rw [Bool.eq_iff_iff, cutKey_eq_toList k hkey]
      simp [String.toList_inj]
    rw [List.find?_cons, hcut]
    by_cases hk : k = key <;> simp [Entries.get?, hk, ih hrest]

lemma keysClear_of_mem (members : List (String × Json)) (h : MembersClear members)
    (member : String × Json) (hmember : member ∈ members) : KeysClear member.2 := by
  induction members with
  | nil => cases hmember
  | cons head rest ih =>
    obtain ⟨-, hvalue, hrest⟩ := h
    rcases List.mem_cons.mp hmember with rfl | hmember
    · exact hvalue
    · exact ih hrest hmember

lemma keysClear_of_get? (key : String) (members : List (String × Json)) (value : Json)
    (h : MembersClear members) (hget : Entries.get? key members = some value) :
    KeysClear value :=
  keysClear_of_mem members h (key, value) (Entries.mem_of_get? key members value hget)

lemma resolveCut_eq_resolve (path : Path) (document : Json) (h : KeysClear document) :
    resolveCut path document = resolve path document := by
  induction path generalizing document with
  | nil => rfl
  | cons key rest ih =>
    cases document with
    | object members =>
      have hfind := find?_cutKey key members h
      simp only [resolveCut, resolve, Json.member?, ← hfind]
      cases hm : members.find? fun member => cutKey member.1 == key.toList with
      | none => rfl
      | some member =>
        refine ih member.2 (keysClear_of_get? key members member.2 h ?_)
        rw [← hfind, hm]
        rfl
    | null | bool | number | string | array => rfl

lemma lt_append_cons (s : List Char) (c : Char) (t : List Char) : s < s ++ c :: t := by
  induction s with
  | nil => exact List.nil_lt_cons c t
  | cons d rest ih => exact List.cons_lt_cons_self.mpr ih

lemma lt_of_cutKey (key stored : String) (h : cutKey stored = key.toList) (hne : stored ≠ key) :
    key < stored := by
  have hprefix : key.toList <+: stored.toList := h ▸ List.takeWhile_prefix _
  obtain ⟨tail, htail⟩ := hprefix
  rw [String.lt_iff, ← htail]
  cases tail with
  | nil => exact absurd (String.toList_inj.mp (by simpa using htail.symm)) hne
  | cons c tail => exact lt_append_cons _ c tail

lemma find?_cutKey_of_sorted (key : String) (members : List (String × Json)) (value : Json)
    (hsorted : Entries.Sorted members) (hnul : '\x00' ∉ key.toList)
    (hget : Entries.get? key members = some value) :
    members.find? (fun member => cutKey member.1 == key.toList) = some (key, value) := by
  induction members with
  | nil => simp [Entries.get?] at hget
  | cons member rest ih =>
    obtain ⟨k, v⟩ := member
    obtain ⟨hhead, hrest⟩ := List.pairwise_cons.mp hsorted
    by_cases hk : k = key
    · subst hk
      have hv : v = value := by simpa [Entries.get?] using hget
      simp [cutKey_eq_toList k hnul, hv]
    · have hget' : Entries.get? key rest = some value := by simpa [Entries.get?, hk] using hget
      have hlt : k < key := hhead _ (Entries.mem_of_get? key rest value hget')
      have hcut : cutKey k ≠ key.toList := fun hcut =>
        String.lt_irrefl key (String.lt_trans (lt_of_cutKey key k hcut hk) hlt)
      rw [List.find?_cons, beq_false_of_ne hcut]
      exact ih hrest hget'

end ContentHub.Store
