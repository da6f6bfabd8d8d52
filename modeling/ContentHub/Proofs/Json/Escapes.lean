import ContentHub.Json.Escapes
import Mathlib.Tactic

/-!
A string literal with an escape never stands for its own text. Backslashes and the letters that open
an escape by number are given weights, so that every escape takes more weight from a text than it
gives, and every other character gives what it takes.
-/

namespace ContentHub.Json.Escapes

def weight (code : ℕ) : ℕ :=
  if code = 0x5C then 2 else if code = 0x75 ∨ code = 0x78 then 1 else 0

def load (codes : List ℕ) : ℕ :=
  (codes.map weight).sum

def byteLoad (bytes : List UInt8) : ℕ :=
  load (bytes.map UInt8.toNat)

lemma weight_le (code : ℕ) : weight code ≤ 2 := by
  simp only [weight]
  split_ifs <;> omega

lemma weight_of_ge (code : ℕ) (h : 128 ≤ code) : weight code = 0 := by
  simp only [weight]
  split_ifs <;> omega

@[simp] lemma load_cons (code : ℕ) (codes : List ℕ) :
    load (code :: codes) = weight code + load codes := by
  simp [load]

@[simp] lemma byteLoad_cons (b : UInt8) (bytes : List UInt8) :
    byteLoad (b :: bytes) = weight b.toNat + byteLoad bytes := by
  simp [byteLoad]

@[simp] lemma byteLoad_append (bytes others : List UInt8) :
    byteLoad (bytes ++ others) = byteLoad bytes + byteLoad others := by
  simp [byteLoad, load]

lemma byteLoad_suffix {bytes others : List UInt8} (h : others <:+ bytes) :
    byteLoad others ≤ byteLoad bytes := by
  obtain ⟨before, rfl⟩ := h
  simp

lemma byteLoad_of_mem {bytes : List UInt8} (h : 0x5C ∈ bytes) : 2 ≤ byteLoad bytes := by
  obtain ⟨before, after, rfl⟩ := List.append_of_mem h
  simp [weight]
  omega

lemma readTail_suffix (code limit : ℕ) (bytes : List UInt8) :
    (readTail code limit bytes).2 <:+ bytes := by
  induction limit generalizing code bytes with
  | zero => simp [readTail]
  | succ limit ih =>
    cases bytes with
    | nil => simp [readTail]
    | cons b rest =>
      simp only [readTail]
      split
      · exact (ih _ rest).trans (List.suffix_cons b rest)
      · exact List.suffix_rfl

lemma le_readTail (code limit : ℕ) (bytes : List UInt8) :
    code ≤ (readTail code limit bytes).1 := by
  induction limit generalizing code bytes with
  | zero => simp [readTail]
  | succ limit ih =>
    cases bytes with
    | nil => simp [readTail]
    | cons b rest =>
      simp only [readTail]
      split
      · exact le_trans (by omega) (ih _ rest)
      · exact le_rfl

lemma mem_readTail (code limit : ℕ) (bytes : List UInt8) (h : 0x5C ∈ bytes) :
    0x5C ∈ (readTail code limit bytes).2 := by
  induction limit generalizing code bytes with
  | zero => simpa [readTail] using h
  | succ limit ih =>
    cases bytes with
    | nil => cases h
    | cons b rest =>
      simp only [readTail]
      split
      · rename_i hb
        -- the byte that is dropped stands behind the first of a character: no backslash does
        have hne : 0x5C ≠ b := by
          rintro rfl
          exact absurd hb (by decide)
        exact ih _ rest ((List.mem_cons.mp h).resolve_left hne)
      · exact h

def Sound (bytes : List UInt8) : Prop :=
  ∀ b rest, b :: rest <:+ bytes → 0xC0 ≤ b.toNat → 128 ≤ (readPlain (b :: rest)).1

lemma Sound.suffix {bytes others : List UInt8} (h : Sound bytes) (hsuffix : others <:+ bytes) :
    Sound others :=
  fun b rest hrest => h b rest (hrest.trans hsuffix)

/-- A code and what is left behind it are together no heavier than the bytes they come from, and
lighter if a backslash is gone. -/
structure Fair (bytes : List UInt8) (read : ℕ × List UInt8) : Prop where
  suffix : read.2 <:+ bytes
  le : weight read.1 + byteLoad read.2 ≤ byteLoad bytes
  lt : 0x5C ∈ bytes → 0x5C ∈ read.2 ∨ weight read.1 + byteLoad read.2 < byteLoad bytes

lemma fair_of_lt {bytes : List UInt8} {read : ℕ × List UInt8} (hsuffix : read.2 <:+ bytes)
    (h : weight read.1 + byteLoad read.2 < byteLoad bytes) : Fair bytes read :=
  ⟨hsuffix, h.le, fun _ => Or.inr h⟩

lemma readPlain_of_lt (b : UInt8) (rest : List UInt8) (h : b.toNat < 0xC0) :
    readPlain (b :: rest) = (b.toNat, rest) := by
  have hb : b < 0xC0 := UInt8.lt_iff_toNat_lt.mpr h
  simp [readPlain, hb]

lemma readPlain_of_ge (b : UInt8) (rest : List UInt8) (h : 0xC0 ≤ b.toNat) :
    ∃ code, readPlain (b :: rest) = readTail code 3 rest := by
  have hb : ¬b < 0xC0 := fun hlt => absurd (UInt8.lt_iff_toNat_lt.mp hlt) (Nat.not_lt.mpr h)
  simp only [readPlain, if_neg hb]
  split_ifs <;> exact ⟨_, rfl⟩

lemma fair_readPlain (b : UInt8) (rest : List UInt8) (hsound : Sound (b :: rest))
    (hb : b ≠ 0x5C) : Fair (b :: rest) (readPlain (b :: rest)) := by
  have hmem : 0x5C ∈ b :: rest → 0x5C ∈ rest := fun h =>
    (List.mem_cons.mp h).resolve_left (Ne.symm hb)
  by_cases hlead : b.toNat < 0xC0
  · rw [readPlain_of_lt b rest hlead]
    exact ⟨List.suffix_cons b rest, by simp, fun h => Or.inl (hmem h)⟩
  · have hcode := hsound b rest List.suffix_rfl (Nat.not_lt.mp hlead)
    obtain ⟨code, hread⟩ := readPlain_of_ge b rest (Nat.not_lt.mp hlead)
    rw [hread] at hcode ⊢
    have hsuffix := readTail_suffix code 3 rest
    have hload := byteLoad_suffix hsuffix
    refine ⟨hsuffix.trans (List.suffix_cons b rest), ?_, ?_⟩
    · rw [weight_of_ge _ hcode, byteLoad_cons]
      omega
    · intro h
      exact Or.inl (mem_readTail code 3 rest (hmem h))

lemma readUnit_suffix (bytes : List UInt8) : (readUnit bytes).2 <:+ bytes := by
  match bytes with
  | [] | [_] | [_, _] | [_, _, _] => exact List.nil_suffix
  | a :: b :: c :: d :: rest =>
    have hrest : rest <:+ a :: b :: c :: d :: rest := ⟨[a, b, c, d], rfl⟩
    simp only [readUnit]
    split
    · split
      · rename_i e f g h after _
        exact List.IsSuffix.trans ⟨[0x5C, 0x75, e, f, g, h], rfl⟩ hrest
      · exact hrest
    · exact hrest

lemma weight_letterCode_le (b : UInt8) : weight (letterCode b) ≤ weight b.toNat := by
  simp only [letterCode]
  split_ifs <;> simp [weight, faultyCode]

lemma readEscape_lt (bytes : List UInt8) : (readEscape bytes).2 <:+ bytes ∧
    weight (readEscape bytes).1 + byteLoad (readEscape bytes).2 < 2 + byteLoad bytes := by
  cases bytes with
  | nil => exact ⟨List.nil_suffix, by decide⟩
  | cons b rest =>
    have hcons := List.suffix_cons b rest
    have hfaulty : weight faultyCode + byteLoad [] = 0 := by decide
    have hany : ∀ read : ℕ × List UInt8, weight b.toNat = 1 → read.2 <:+ rest →
        read.2 <:+ b :: rest ∧ weight read.1 + byteLoad read.2 < 2 + byteLoad (b :: rest) := by
      intro read hweight hread
      have hcode := weight_le read.1
      have hload := byteLoad_suffix hread
      refine ⟨hread.trans hcons, ?_⟩
      rw [byteLoad_cons]
      omega
    simp only [readEscape]
    split_ifs with hunit hbyte hcut
    · exact hany (readUnit rest) (by subst hunit; rfl) (readUnit_suffix rest)
    · match rest with
      | [] | [_] => exact ⟨List.nil_suffix, by simp only [hfaulty]; omega⟩
      | c :: d :: rest => exact hany _ (by subst hbyte; rfl) ⟨[c, d], rfl⟩
    · exact ⟨List.nil_suffix, by simp only [hfaulty]; omega⟩
    · have hletter := weight_letterCode_le b
      refine ⟨hcons, ?_⟩
      simp only [byteLoad_cons]
      omega

lemma skipLineEnds_cases (bytes : List UInt8) : skipLineEnds bytes = bytes ∨
    (skipLineEnds bytes <:+ bytes ∧ byteLoad (skipLineEnds bytes) < byteLoad bytes) := by
  -- one case for each form of an escaped end of line; they only differ in what is dropped
  have hdrop : ∀ (taken rest : List UInt8), 0x5C ∈ taken →
      (skipLineEnds rest = rest ∨
        (skipLineEnds rest <:+ rest ∧ byteLoad (skipLineEnds rest) < byteLoad rest)) →
      skipLineEnds rest <:+ taken ++ rest ∧
        byteLoad (skipLineEnds rest) < byteLoad (taken ++ rest) := by
    intro taken rest htaken ih
    have hload := byteLoad_of_mem htaken
    rw [byteLoad_append]
    rcases ih with hsame | ⟨hsuffix, hlt⟩
    · rw [hsame]
      exact ⟨List.suffix_append taken rest, by omega⟩
    · exact ⟨hsuffix.trans (List.suffix_append taken rest), by omega⟩
  fun_induction skipLineEnds bytes with
  | case1 rest ih => exact Or.inr (hdrop [0x5C, 0x0A] rest (by decide) ih)
  | case2 rest ih => exact Or.inr (hdrop [0x5C, 0x0D, 0x0A] rest (by decide) ih)
  | case3 rest _ ih => exact Or.inr (hdrop [0x5C, 0x0D] rest (by decide) ih)
  | case4 rest ih => exact Or.inr (hdrop [0x5C, 0xE2, 0x80, 0xA8] rest (by decide) ih)
  | case5 rest ih => exact Or.inr (hdrop [0x5C, 0xE2, 0x80, 0xA9] rest (by decide) ih)
  | case6 => exact Or.inl rfl

lemma fair_readCode (bytes : List UInt8) (hsound : Sound bytes) (hne : bytes ≠ []) :
    Fair bytes (readCode bytes) := by
  have hskip := skipLineEnds_cases bytes
  simp only [readCode]
  rcases hrest : skipLineEnds bytes with _ | ⟨b, rest⟩ <;> rw [hrest] at hskip
  · obtain ⟨-, hlt⟩ := hskip.resolve_left (Ne.symm hne)
    exact fair_of_lt List.nil_suffix (by simpa [readPlain, weight] using hlt)
  · have hsuffix : b :: rest <:+ bytes := hskip.elim (· ▸ List.suffix_rfl) And.left
    by_cases hb : b = 0x5C
    · subst hb
      obtain ⟨hread, hlt⟩ := readEscape_lt rest
      have hload := byteLoad_suffix hsuffix
      have hslash : byteLoad (0x5C :: rest) = 2 + byteLoad rest := byteLoad_cons _ _
      refine fair_of_lt ((hread.trans (List.suffix_cons _ _)).trans hsuffix) ?_
      change weight (readEscape rest).1 + byteLoad (readEscape rest).2 < byteLoad bytes
      omega
    · have hfair := fair_readPlain b rest (hsound.suffix hsuffix) hb
      split
      · simp_all
      · rcases hskip with rfl | ⟨-, hlt⟩
        · exact hfair
        · exact fair_of_lt (hfair.suffix.trans hsuffix) (hfair.le.trans_lt hlt)

lemma load_codesFrom (fuel : ℕ) (bytes : List UInt8) (hsound : Sound bytes) :
    load (codesFrom fuel bytes) ≤ byteLoad bytes ∧
      (0x5C ∈ bytes → load (codesFrom fuel bytes) < byteLoad bytes) := by
  induction fuel generalizing bytes with
  | zero =>
    refine ⟨Nat.zero_le _, ?_⟩
    intro h
    have hload := byteLoad_of_mem h
    simp only [codesFrom, load, List.map_nil, List.sum_nil]
    omega
  | succ fuel ih =>
    -- a backslash is either lost at this code, with weight, or still there for the next ones
    cases bytes with
    | nil => exact ⟨le_rfl, fun h => absurd h List.not_mem_nil⟩
    | cons b rest =>
      have hfair := fair_readCode (b :: rest) hsound (List.cons_ne_nil b rest)
      obtain ⟨hle, hlt⟩ := ih (readCode (b :: rest)).2 (hsound.suffix hfair.suffix)
      have hfirst := hfair.le
      simp only [codesFrom, load_cons]
      refine ⟨by omega, ?_⟩
      intro h
      rcases hfair.lt h with hmem | hless
      · have hrest := hlt hmem
        omega
      · omega

section Characters

lemma sound_nil : Sound [] := by
  intro b rest h
  simp at h

lemma sound_cons (b : UInt8) (rest : List UInt8) (h : Sound rest)
    (hb : 0xC0 ≤ b.toNat → 128 ≤ (readPlain (b :: rest)).1) : Sound (b :: rest) := by
  intro other tail hsuffix hother
  rcases List.suffix_cons_iff.mp hsuffix with hsame | hrest
  · rw [hsame]
    obtain ⟨rfl, rfl⟩ := List.cons.inj hsame
    exact hb hother
  · exact h other tail hrest hother

lemma sound_append (tail rest : List UInt8) (h : Sound rest)
    (htail : ∀ b ∈ tail, b.toNat < 0xC0) : Sound (tail ++ rest) := by
  induction tail with
  | nil => exact h
  | cons b tail ih =>
    obtain ⟨hb, htail⟩ := List.forall_mem_cons.mp htail
    exact sound_cons b _ (ih htail) fun hge => absurd hb (Nat.not_lt.mpr hge)

lemma byteLoad_of_ge (bytes : List UInt8) (h : ∀ b ∈ bytes, 128 ≤ b.toNat) :
    byteLoad bytes = 0 := by
  induction bytes with
  | nil => rfl
  | cons b rest ih =>
    obtain ⟨hb, hrest⟩ := List.forall_mem_cons.mp h
    rw [byteLoad_cons, weight_of_ge _ hb, ih hrest]

def Fresh (bytes : List UInt8) : Prop :=
  ∀ b ∈ bytes.head?, b.toNat / 64 ≠ 2

structure Wide (code : ℕ) (b : UInt8) (tail : List UInt8) : Prop where
  lead : 0xC0 ≤ b.toNat
  behind : ∀ other ∈ tail, 128 ≤ other.toNat ∧ other.toNat < 0xC0
  high : ∀ rest, 128 ≤ (readPlain (b :: tail ++ rest)).1
  exact : ∀ rest, Fresh rest → readPlain (b :: tail ++ rest) = (code, rest)

def low (n : ℕ) : UInt8 :=
  UInt8.ofNat (n % 64 + 128)

lemma toNat_low (n : ℕ) : (low n).toNat = n % 64 + 128 := by
  rw [low, UInt8.toNat_ofNat']
  omega

lemma le_readTail_lows (lows : List ℕ) (code limit : ℕ) (rest : List UInt8)
    (hlimit : lows.length ≤ limit) :
    lows.foldl (fun code n => code * 64 + n % 64) code ≤
      (readTail code limit (lows.map low ++ rest)).1 := by
  induction lows generalizing code limit with
  | nil => exact le_readTail code limit rest
  | cons n lows ih =>
    obtain ⟨limit, rfl⟩ : ∃ less, limit = less + 1 :=
      Nat.exists_eq_add_one.mpr (Nat.lt_of_lt_of_le (Nat.succ_pos _) hlimit)
    have htwo : (n % 64 + 128) / 64 = 2 := by omega
    have hlow : (n % 64 + 128) % 64 = n % 64 := by omega
    rw [List.map_cons, List.cons_append, readTail, toNat_low, if_pos htwo, hlow]
    exact ih _ limit (Nat.le_of_succ_le_succ hlimit)

lemma readTail_fresh (code limit : ℕ) {rest : List UInt8} (h : Fresh rest) :
    readTail code limit rest = (code, rest) := by
  cases limit with
  | zero => rfl
  | succ limit =>
    cases rest with
    | nil => rfl
    | cons b rest => rw [readTail, if_neg (h b rfl)]

lemma readTail_lows (lows : List ℕ) (code limit : ℕ) {rest : List UInt8}
    (hlimit : lows.length ≤ limit) (h : Fresh rest) :
    readTail code limit (lows.map low ++ rest) =
      (lows.foldl (fun code n => code * 64 + n % 64) code, rest) := by
  induction lows generalizing code limit with
  | nil => exact readTail_fresh code limit h
  | cons n lows ih =>
    obtain ⟨limit, rfl⟩ : ∃ less, limit = less + 1 :=
      Nat.exists_eq_add_one.mpr (Nat.lt_of_lt_of_le (Nat.succ_pos _) hlimit)
    have htwo : (n % 64 + 128) / 64 = 2 := by omega
    have hlow : (n % 64 + 128) % 64 = n % 64 := by omega
    rw [List.map_cons, List.cons_append, readTail, toNat_low, if_pos htwo, hlow]
    exact ih _ limit (Nat.le_of_succ_le_succ hlimit)

lemma wide_of_lows (code first high : ℕ) (lows : List ℕ) (hfirst : 0xC0 ≤ first ∧ first < 256)
    (hread : ∀ rest, readPlain (UInt8.ofNat first :: rest) = readTail high 3 rest)
    (hlength : lows.length ≤ 3) (hwide : 128 ≤ code)
    (hcode : lows.foldl (fun code n => code * 64 + n % 64) high = code) :
    Wide code (UInt8.ofNat first) (lows.map low) where
  lead := by
    rw [UInt8.toNat_ofNat']
    omega
  behind := by
    intro other hother
    obtain ⟨n, -, rfl⟩ := List.mem_map.mp hother
    rw [toNat_low]
    omega
  high := by
    intro rest
    rw [List.cons_append, hread]
    exact hwide.trans (hcode ▸ le_readTail_lows lows high 3 rest hlength)
  exact := by
    intro rest hfresh
    rw [List.cons_append, hread, readTail_lows lows high 3 hlength hfresh, hcode]

lemma readPlain_ofNat (first : ℕ) (rest : List UInt8) (h : first < 256) :
    readPlain (UInt8.ofNat first :: rest) =
      if first < 0xC0 then (first, rest) else if first < 0xE0 then readTail (first - 0xC0) 3 rest
      else if first < 0xF0 then readTail (first - 0xE0) 3 rest
      else readTail (first - 0xF0) 3 rest := by
  simp only [readPlain, UInt8.lt_iff_toNat_lt, UInt8.toNat_ofNat_of_lt' h]
  rfl

lemma utf8EncodeChar_cases (c : Char) :
    (c.toNat < 128 ∧ String.utf8EncodeChar c = [UInt8.ofNat c.toNat]) ∨
      (128 ≤ c.toNat ∧ ∃ b tail, String.utf8EncodeChar c = b :: tail ∧
        Wide c.toNat b tail) := by
  have hsize : c.toNat < 0x110000 := by
    rcases c.valid with h | h <;> simp only [Char.toNat, UInt32.toNat] at * <;> omega
  simp only [String.utf8EncodeChar, Char.toNat_val]
  generalize c.toNat = n at hsize
  split_ifs with hone htwo hthree
  · exact Or.inl ⟨by omega, rfl⟩
  · have hhigh : n / 64 % 32 + 192 - 0xC0 = n / 64 := by omega
    refine Or.inr ⟨by omega, _, _, rfl, wide_of_lows n _ (n / 64) [n] (by omega) ?_
      (by simp) (by omega) ?_⟩
    · intro rest
      rw [readPlain_ofNat _ _ (by omega), if_neg (by omega), if_pos (by omega), hhigh]
    · simp only [List.foldl_cons, List.foldl_nil]
      omega
  · have hhigh : n / 4096 % 16 + 224 - 0xE0 = n / 4096 := by omega
    refine Or.inr ⟨by omega, _, _, rfl, wide_of_lows n _ (n / 4096) [n / 64, n] (by omega)
      ?_ (by simp) (by omega) ?_⟩
    · intro rest
      rw [readPlain_ofNat _ _ (by omega), if_neg (by omega), if_neg (by omega),
        if_pos (by omega), hhigh]
    · simp only [List.foldl_cons, List.foldl_nil]
      omega
  · have hhigh : n / 262144 % 8 + 240 - 0xF0 = n / 262144 := by omega
    refine Or.inr ⟨by omega, _, _, rfl, wide_of_lows n _ (n / 262144)
      [n / 4096, n / 64, n] (by omega) ?_ (by simp) (by omega) ?_⟩
    · intro rest
      rw [readPlain_ofNat _ _ (by omega), if_neg (by omega), if_neg (by omega),
        if_neg (by omega), hhigh]
    · simp only [List.foldl_cons, List.foldl_nil]
      omega

lemma sound_utf8 (text : List Char) : Sound (text.flatMap String.utf8EncodeChar) := by
  induction text with
  | nil => exact sound_nil
  | cons c text ih =>
    rw [List.flatMap_cons]
    rcases utf8EncodeChar_cases c with ⟨hc, henc⟩ | ⟨-, b, tail, henc, hwide⟩
    · rw [henc]
      apply sound_append _ _ ih
      intro b hb
      rw [List.mem_singleton.mp hb, UInt8.toNat_ofNat']
      omega
    · rw [henc, List.cons_append]
      exact sound_cons b _ (sound_append tail _ ih fun other h => (hwide.behind other h).2)
        fun _ => hwide.high _

lemma byteLoad_utf8 (text : List Char) :
    byteLoad (text.flatMap String.utf8EncodeChar) = load (text.map Char.toNat) := by
  induction text with
  | nil => rfl
  | cons c text ih =>
    rw [List.flatMap_cons, byteLoad_append, ih, List.map_cons, load_cons]
    congr 1
    rcases utf8EncodeChar_cases c with ⟨hc, henc⟩ | ⟨hc, b, tail, henc, hwide⟩
    · have hbyte : (UInt8.ofNat c.toNat).toNat = c.toNat := by
        rw [UInt8.toNat_ofNat']
        omega
      rw [henc, byteLoad_cons, hbyte]
      rfl
    · have hhigh : ∀ other ∈ b :: tail, 128 ≤ other.toNat := List.forall_mem_cons.mpr
        ⟨by have := hwide.lead; omega, fun other h => (hwide.behind other h).1⟩
      rw [henc, byteLoad_of_ge _ hhigh, weight_of_ge _ hc]

lemma mem_utf8 (text : List Char) (h : '\\' ∈ text) :
    0x5C ∈ text.flatMap String.utf8EncodeChar :=
  List.mem_flatMap.mpr ⟨'\\', h, by decide⟩

end Characters

lemma load_ofBytes_lt (text : List Char) (h : '\\' ∈ text) :
    load (ofBytes (text.flatMap String.utf8EncodeChar)) < load (text.map Char.toNat) := by
  rw [← byteLoad_utf8]
  exact (load_codesFrom _ _ (sound_utf8 text)).2 (mem_utf8 text h)

end ContentHub.Json.Escapes
