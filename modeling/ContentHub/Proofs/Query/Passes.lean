import ContentHub.Proofs.Query.Runs
import Mathlib.Tactic

/-!
Canonical texts by two passes of search and replace. Both passes find the leftmost match first and
repeat as often as they can. The first puts an asterisk in the place of every run of wildcards with
an asterisk in it, the second a question mark in the place of every run of question marks. They
treat runs of wildcards for themselves, so it is enough to compare them with `collapse` on runs.
-/

namespace ContentHub.Query

inductive Piece
  | one (p : Char → Bool)
  | many (p : Char → Bool)

/-- Goes on behind as many characters as possible, and takes fewer only when there is no other
way. -/
def repeated (p : Char → Bool) (next : List Char → Option (List Char)) :
    List Char → Option (List Char)
  | [] => next []
  | c :: s => if p c then (repeated p next s).or (next (c :: s)) else next (c :: s)

def behind : List Piece → List Char → Option (List Char)
  | [], s => some s
  | .one _ :: _, [] => none
  | .one p :: pieces, c :: s => if p c then behind pieces s else none
  | .many p :: pieces, s => repeated p (behind pieces) s

def replaceAll (pieces : List Piece) (mark : Char) : List Char → List Char
  | [] => []
  | c :: s =>
    match behind pieces (c :: s) with
    | some rest => if rest.length ≤ s.length then mark :: replaceAll pieces mark rest
      else c :: replaceAll pieces mark s
    | none => c :: replaceAll pieces mark s
termination_by s => s.length

def isStar (c : Char) : Bool := c == '*'

def isMark (c : Char) : Bool := c == '?'

def joinStars (s : List Char) : List Char :=
  replaceAll [.many isWildcard, .one isStar, .many isWildcard] '*' s

def joinMarks (s : List Char) : List Char :=
  replaceAll [.one isMark, .many isMark] '?' s

lemma repeated_some (p : Char → Bool) (s : List Char) :
    repeated p some s = some (s.dropWhile p) := by
  induction s with
  | nil => rfl
  | cons c rest ih =>
    rw [repeated, List.dropWhile_cons]
    split
    · rw [ih, Option.some_or]
    · rfl

lemma behind_many (p : Char → Bool) (s : List Char) :
    behind [.many p] s = some (s.dropWhile p) := by
  have hlast : behind [] = some := by
    funext s
    rw [behind]
  rw [behind, hlast, repeated_some]

lemma behind_stars (s : List Char) :
    behind [.many isWildcard, .one isStar, .many isWildcard] s =
      if '*' ∈ s.takeWhile isWildcard then some (s.dropWhile isWildcard) else none := by
  rw [behind]
  induction s with
  | nil => rfl
  | cons c rest ih =>
    have hstop : behind [.one isStar, .many isWildcard] (c :: rest) =
        if isStar c = true then some (rest.dropWhile isWildcard) else none := by
      rw [behind, behind_many]
    rw [repeated, ih, hstop, List.takeWhile_cons, List.dropWhile_cons]
    cases hc : isWildcard c with
    | true =>
      -- an asterisk further on in the run is preferred to this one, with the same end
      by_cases hstar : '*' ∈ rest.takeWhile isWildcard
      · simp [hstar]
      · by_cases hchar : '*' = c
        · simp [hstar, isStar, ← hchar]
        · simp [hstar, isStar, hchar, Ne.symm hchar]
    | false =>
      have hplain : isStar c = false := by
        simp only [isWildcard, Bool.or_eq_false_iff] at hc
        exact hc.1
      simp [hplain]

lemma joinStars_cons (c : Char) (s : List Char) :
    joinStars (c :: s) = if '*' ∈ (c :: s).takeWhile isWildcard
      then '*' :: joinStars ((c :: s).dropWhile isWildcard) else c :: joinStars s := by
  rw [joinStars, replaceAll, behind_stars]
  by_cases hstar : '*' ∈ (c :: s).takeWhile isWildcard
  · rw [if_pos hstar, if_pos hstar]
    have hc : isWildcard c = true := by
      by_contra hc
      simp [hc] at hstar
    have hshorter : ((c :: s).dropWhile isWildcard).length ≤ s.length := by
      rw [List.dropWhile_cons_of_pos hc]
      exact (List.dropWhile_suffix isWildcard).length_le
    simp only [hshorter, if_true, joinStars]
  · rw [if_neg hstar, if_neg hstar]
    rfl

lemma joinStars_run {run : List Char} (hrun : Wild run) {rest : List Char}
    (hrest : ∀ c ∈ rest.head?, isWildcard c = false) :
    joinStars (run ++ rest) = (if '*' ∈ run then ['*'] else run) ++ joinStars rest := by
  have htake : rest.takeWhile isWildcard = [] := by
    cases rest with
    | nil => rfl
    | cons c others => simp [hrest c rfl]
  have hdrop : rest.dropWhile isWildcard = rest := by
    cases rest with
    | nil => rfl
    | cons c others => simp [hrest c rfl]
  induction run with
  | nil => simp
  | cons c later ih =>
    obtain ⟨-, hlater⟩ := List.forall_mem_cons.mp hrun
    rw [List.cons_append, joinStars_cons, ← List.cons_append, List.takeWhile_append_of_pos hrun,
      List.dropWhile_append_of_pos hrun, htake, hdrop, List.append_nil]
    by_cases hstar : '*' ∈ c :: later
    · rw [if_pos hstar, if_pos hstar, List.singleton_append]
    · have hnone : '*' ∉ later := mt (List.mem_cons_of_mem c) hstar
      rw [if_neg hstar, if_neg hstar, ih hlater, if_neg hnone, List.cons_append]

lemma joinStars_nil : joinStars [] = [] := by
  rw [joinStars, replaceAll]

lemma joinStars_wild {run : List Char} (hrun : Wild run) :
    joinStars run = if '*' ∈ run then ['*'] else run := by
  have hend : ∀ c ∈ ([] : List Char).head?, isWildcard c = false := by simp
  have h := joinStars_run hrun hend
  rwa [List.append_nil, joinStars_nil, List.append_nil] at h

lemma runwise_joinStars : Runwise joinStars where
  wild run hrun := by
    rw [joinStars_wild hrun]
    split
    · exact List.forall_mem_singleton.mpr rfl
    · exact hrun
  empty run hrun := by
    rw [joinStars_wild hrun]
    split
    · next hstar => simp [List.ne_nil_of_mem hstar]
    · rfl
  split run c rest hrun hc := by
    have hstop : ∀ d ∈ (c :: rest).head?, isWildcard d = false := by
      rintro _ ⟨⟩
      exact hc
    have hnone : joinStars (c :: rest) = c :: joinStars rest := by
      rw [joinStars_cons]
      simp [hc]
    rw [joinStars_run hrun hstop, ← joinStars_wild hrun, hnone]

lemma joinMarks_nil : joinMarks [] = [] := by
  rw [joinMarks, replaceAll]

lemma joinMarks_mark (s : List Char) :
    joinMarks ('?' :: s) = '?' :: joinMarks (s.dropWhile isMark) := by
  have hshorter : (s.dropWhile isMark).length ≤ s.length :=
    (List.dropWhile_suffix isMark).length_le
  have hfound : behind [.one isMark, .many isMark] ('?' :: s) = some (s.dropWhile isMark) := by
    rw [behind, behind_many]
    rfl
  rw [joinMarks, replaceAll, hfound]
  simp only [hshorter, if_true, joinMarks]

lemma joinMarks_other {c : Char} (hc : isMark c = false) (s : List Char) :
    joinMarks (c :: s) = c :: joinMarks s := by
  have hnone : behind [.one isMark, .many isMark] (c :: s) = none := by
    simp [behind, hc]
  rw [joinMarks, replaceAll, hnone]
  rfl

lemma joinMarks_cons (c : Char) (s : List Char) : joinMarks (c :: s) =
    if c = '?' ∧ s.head? = some '?' then joinMarks s else c :: joinMarks s := by
  by_cases hc : c = '?'
  · subst hc
    rw [joinMarks_mark]
    cases s with
    | nil => simp
    | cons d rest =>
      by_cases hd : d = '?'
      · subst hd
        rw [joinMarks_mark]
        simp [isMark]
      · simp [isMark, hd]
  · rw [joinMarks_other (by simp [isMark, hc]), if_neg (fun h => hc h.1)]

lemma mem_joinMarks (c : Char) (s : List Char) : c ∈ joinMarks s ↔ c ∈ s := by
  induction s with
  | nil => rw [joinMarks_nil]
  | cons d rest ih =>
    rw [joinMarks_cons]
    split
    · next h =>
      have hmark : '?' ∈ rest := List.mem_of_mem_head? h.2
      rw [ih, List.mem_cons, h.1]
      constructor
      · exact Or.inr
      · rintro (rfl | hc)
        · exact hmark
        · exact hc
    · rw [List.mem_cons, List.mem_cons, ih]

lemma runwise_joinMarks : Runwise joinMarks where
  wild run hrun c hc := hrun c ((mem_joinMarks c run).mp hc)
  empty run _ := by
    simp only [List.eq_nil_iff_forall_not_mem, mem_joinMarks]
  split run c rest hrun hc := by
    have hmark : c ≠ '?' := by
      rintro rfl
      cases hc
    clear hrun
    induction run with
    | nil => rw [List.nil_append, joinMarks_cons, if_neg (fun h => hmark h.1), joinMarks_nil]; rfl
    | cons d later ih =>
      have hhead : (later ++ c :: rest).head? = some '?' ↔ later.head? = some '?' := by
        cases later <;> simp [hmark]
      rw [List.cons_append, joinMarks_cons, joinMarks_cons d later, ih]
      simp only [hhead]
      split <;> rfl

lemma joinMarks_wild {run : List Char} (hrun : Wild run) (hne : run ≠ []) (hstar : '*' ∉ run) :
    joinMarks run = ['?'] := by
  induction run with
  | nil => exact absurd rfl hne
  | cons c rest ih =>
    obtain ⟨hc, hrest⟩ := List.forall_mem_cons.mp hrun
    obtain ⟨hchar, hnone⟩ := not_or.mp (mt List.mem_cons.mpr hstar)
    obtain rfl := ((isWildcard_iff c).mp hc).resolve_left (Ne.symm hchar)
    rw [joinMarks_cons]
    cases rest with
    | nil => simp [joinMarks_nil]
    | cons d others =>
      have hd : isWildcard d = true := hrest d List.mem_cons_self
      have hother : d ≠ '*' := fun h => hnone (h ▸ List.mem_cons_self)
      obtain rfl := ((isWildcard_iff d).mp hd).resolve_left hother
      rw [if_pos ⟨rfl, rfl⟩, ih hrest (List.cons_ne_nil _ _) hnone]

lemma joinMarks_joinStars : joinMarks ∘ joinStars = collapse := by
  apply (runwise_joinMarks.comp runwise_joinStars).eq_of_wild runwise_collapse
  intro run hrun
  rw [Function.comp_apply, joinStars_wild hrun]
  rcases eq_or_ne run [] with rfl | hne
  · simp [joinMarks_nil, collapse]
  · rw [collapse_wild hrun hne]
    by_cases hstar : '*' ∈ run
    · rw [if_pos hstar, if_pos hstar, joinMarks_other rfl, joinMarks_nil]
    · rw [if_neg hstar, if_neg hstar, joinMarks_wild hrun hne hstar]

lemma joinStars_joinMarks : joinStars ∘ joinMarks = collapse := by
  apply (runwise_joinStars.comp runwise_joinMarks).eq_of_wild runwise_collapse
  intro run hrun
  rw [Function.comp_apply, joinStars_wild (runwise_joinMarks.wild run hrun)]
  simp only [mem_joinMarks]
  rcases eq_or_ne run [] with rfl | hne
  · simp [joinMarks_nil, collapse]
  · rw [collapse_wild hrun hne]
    by_cases hstar : '*' ∈ run
    · rw [if_pos hstar, if_pos hstar]
    · rw [if_neg hstar, if_neg hstar, joinMarks_wild hrun hne hstar]

lemma canonicalText_passes (text : String) : (canonicalText (some text)).toList =
    joinMarks (joinStars (Text.trimChars text.toList)) := by
  rw [canonicalText, String.toList_ofList, ← joinMarks_joinStars, Function.comp_apply]

end ContentHub.Query
