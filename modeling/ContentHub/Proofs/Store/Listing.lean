import ContentHub.Proofs.Provider.Document
import ContentHub.Proofs.Store.Stamps
import ContentHub.Proofs.Text.Bytes
import Mathlib.Tactic

namespace ContentHub.Store

def namedBy (document : Json) : String :=
  ((document.member? "name").bind Json.text?).getD ""

def shown (text : String) : String :=
  String.ofList (upToNul text.toList)

def withName (name : String) (documents : Entries Json) : Entries Json :=
  documents.filter fun entry => namedBy entry.2 = name

/-- Some documents in the order of their names. Those with one name keep their order. -/
structure SortedByName (documents entries : Entries Json) : Prop where
  perm : entries.Perm documents
  sorted : entries.Pairwise fun a b => Text.bytes (namedBy a.2) ≤ Text.bytes (namedBy b.2)
  stable : ∀ name, withName name entries = withName name documents

def Shows (row : Summary) (entry : String × Json) : Prop :=
  row.id = entry.1 ∧ row.name = shown (namedBy entry.2)

structure Lists (mint : ℕ → String × String) (documents entries : Entries Json)
    (rows : List Summary) : Prop where
  sorted : SortedByName documents entries
  shows : List.Forall₂ Shows rows entries
  stamped : ∀ row ∈ rows, ∃ n, mint n = (row.id, row.stamp)
  whole : rows.map Summary.name = entries.map (fun entry => namedBy entry.2) ↔
    ∀ entry ∈ documents, '\x00' ∉ (namedBy entry.2).toList

section Sorting

variable {α : Type} (key : α → String) {xs ys : List α}

lemma key_le_trans (a b c : α) (hab : decide (key a ≤ key b) = true)
    (hbc : decide (key b ≤ key c) = true) : decide (key a ≤ key c) = true := by
  simp only [decide_eq_true_eq] at hab hbc ⊢
  exact String.le_trans hab hbc

lemma key_le_total (a b : α) : (decide (key a ≤ key b) || decide (key b ≤ key a)) = true := by
  simpa using String.le_total (key a) (key b)

lemma pairwise_mergeSort_key (xs : List α) :
    (xs.mergeSort fun a b => key a ≤ key b).Pairwise fun a b => key a ≤ key b := by
  simpa using List.pairwise_mergeSort (key_le_trans key) (key_le_total key) xs

lemma filter_mergeSort {le : α → α → Bool} (htrans : ∀ a b c, le a b → le b c → le a c)
    (htotal : ∀ a b, (le a b || le b a) = true) {p : α → Bool}
    (horder : (xs.filter p).Pairwise fun a b => le a b = true) :
    (xs.mergeSort le).filter p = xs.filter p := by
  have hsublist := List.sublist_mergeSort htrans htotal horder List.filter_sublist
  have hkept := hsublist.filter p
  rw [List.filter_filter] at hkept
  simp only [Bool.and_self] at hkept
  exact (hkept.eq_of_length ((List.mergeSort_perm xs le).filter p).length_eq.symm).symm

lemma filter_mergeSort_key (xs : List α) (name : String) :
    (xs.mergeSort fun a b => key a ≤ key b).filter (fun x => key x = name) =
      xs.filter fun x => key x = name := by
  refine filter_mergeSort (key_le_trans key) (key_le_total key) ?_
  refine List.pairwise_of_forall_mem_list fun a ha b hb => ?_
  have hakey : key a = name := by simpa using (List.mem_filter.mp ha).2
  have hbkey : key b = name := by simpa using (List.mem_filter.mp hb).2
  simp [hakey, hbkey]

lemma mem_iff_of_filter_key
    (h : ∀ name, xs.filter (fun x => key x = name) = ys.filter fun y => key y = name) (a : α) :
    a ∈ xs ↔ a ∈ ys := by
  have ha := congrArg (fun kept => a ∈ kept) (h (key a))
  simpa using ha

lemma key_le_of_mem {x y : α} (hx : (x :: xs).Pairwise fun a b => key a ≤ key b)
    (hy : y ∈ x :: xs) : key x ≤ key y := by
  rcases List.mem_cons.mp hy with rfl | hy
  · exact String.le_refl _
  · exact List.rel_of_pairwise_cons hx hy

lemma eq_of_filter_key (hx : xs.Pairwise fun a b => key a ≤ key b)
    (hy : ys.Pairwise fun a b => key a ≤ key b)
    (h : ∀ name, xs.filter (fun x => key x = name) = ys.filter fun y => key y = name) :
    xs = ys := by
  have hmem := mem_iff_of_filter_key key h
  induction xs generalizing ys with
  | nil =>
    symm
    exact List.eq_nil_iff_forall_not_mem.mpr fun y hy => List.not_mem_nil ((hmem y).mpr hy)
  | cons x xs ih =>
    cases ys with
    | nil => exact absurd ((hmem x).mp List.mem_cons_self) List.not_mem_nil
    | cons y ys =>
      -- both start with the first of the least key
      have hle : key x ≤ key y := key_le_of_mem key hx ((hmem y).mpr List.mem_cons_self)
      have hge : key y ≤ key x := key_le_of_mem key hy ((hmem x).mp List.mem_cons_self)
      have hsame := h (key x)
      simp only [List.filter_cons, String.le_antisymm hge hle, decide_true, if_true] at hsame
      obtain ⟨rfl, -⟩ := List.cons.inj hsame
      have hlater : ∀ name, xs.filter (fun a => key a = name) =
          ys.filter fun a => key a = name := by
        intro name
        have hname := h name
        simp only [List.filter_cons] at hname
        split at hname
        · exact (List.cons.inj hname).2
        · exact hname
      rw [ih hx.of_cons hy.of_cons hlater (mem_iff_of_filter_key key hlater)]

end Sorting

section Documents

variable {mint : ℕ → String × String} {rows : List Row} {database : Database}
  {documents others entries otherEntries : Entries Json}

lemma shown_eq_iff (text : String) : shown text = text ↔ '\x00' ∉ text.toList := by
  rw [← String.toList_inj, shown, String.toList_ofList, upToNul, List.takeWhile_eq_self_iff]
  constructor
  · intro hall hmem
    simpa using hall _ hmem
  · intro hnone c hc
    exact decide_eq_true fun hnul => hnone (hnul ▸ hc)

lemma namedBy_of_accepted {document : Json} {provider : Provider}
    (h : Provider.ofDocument document = .ok provider) : namedBy document = provider.name := by
  simp [namedBy, Provider.ofDocument_name document provider h, Json.text?]

lemma Row.Holds.name {row : Row} {entry : String × Json} (h : row.Holds entry) :
    row.name = namedBy entry.2 := by
  obtain ⟨provider, hprovider, hname⟩ := h.named
  rw [hname, namedBy_of_accepted hprovider]

lemma sortedByName_mergeSort (documents : Entries Json) :
    SortedByName documents
      (documents.mergeSort fun a b => namedBy a.2 ≤ namedBy b.2) where
  perm := List.mergeSort_perm _ _
  sorted := by
    simp only [Text.bytes_le_iff]
    exact pairwise_mergeSort_key (fun entry : String × Json => namedBy entry.2) documents
  stable := filter_mergeSort_key (fun entry : String × Json => namedBy entry.2) documents

lemma SortedByName.unique (h : SortedByName documents entries)
    (ho : SortedByName others otherEntries)
    (hsame : ∀ name, withName name others = withName name documents) :
    otherEntries = entries := by
  have hsorted := h.sorted
  have hosorted := ho.sorted
  simp only [Text.bytes_le_iff] at hsorted hosorted
  refine eq_of_filter_key (fun entry : String × Json => namedBy entry.2) hosorted hsorted ?_
  intro name
  exact (ho.stable name).trans ((hsame name).trans (h.stable name).symm)

lemma mergeSort_holds (h : List.Forall₂ Row.Holds rows documents) :
    List.Forall₂ Row.Holds (rows.mergeSort fun a b => a.name ≤ b.name)
      (documents.mergeSort fun a b => namedBy a.2 ≤ namedBy b.2) := by
  obtain ⟨pairs, hrows, hdocuments, hpairs⟩ : ∃ pairs : List (Row × (String × Json)),
      pairs.map Prod.fst = rows ∧ pairs.map Prod.snd = documents ∧
        ∀ pair ∈ pairs, pair.1.Holds pair.2 := by
    refine ⟨rows.zip documents, List.map_fst_zip h.length_eq.le,
      List.map_snd_zip h.length_eq.ge, fun pair hpair => ?_⟩
    exact (List.forall₂_iff_zip.mp h).2 hpair
  have hname : ∀ pair ∈ pairs, ∀ other ∈ pairs, decide (pair.1.name ≤ other.1.name) =
      decide (namedBy pair.2.2 ≤ namedBy other.2.2) := by
    intro pair hpair other hother
    rw [(hpairs pair hpair).name, (hpairs other hother).name]
  have hfst : (pairs.mergeSort fun a b => a.1.name ≤ b.1.name).map Prod.fst =
      (pairs.map Prod.fst).mergeSort fun a b => a.name ≤ b.name :=
    List.map_mergeSort fun _ _ _ _ => rfl
  have hsnd : (pairs.mergeSort fun a b => a.1.name ≤ b.1.name).map Prod.snd =
      (pairs.map Prod.snd).mergeSort fun a b => namedBy a.2 ≤ namedBy b.2 :=
    List.map_mergeSort hname
  rw [← hrows, ← hdocuments, ← hfst, ← hsnd, List.forall₂_map_left_iff, List.forall₂_map_right_iff,
    List.forall₂_same]
  exact fun pair hpair => hpairs pair (List.mem_mergeSort.mp hpair)

lemma precedes_iff (row other : Row) : row.precedes other = true ↔
    row.name < other.name ∨ row.name = other.name ∧ row.stamp ≤ other.stamp := by
  simp [Row.precedes]

lemma precedes_trans (first second third : Row) (h : first.precedes second = true)
    (hnext : second.precedes third = true) : first.precedes third = true := by
  rw [precedes_iff] at h hnext ⊢
  rcases h with hlt | ⟨hname, hstamp⟩
  · rcases hnext with hnext | ⟨hsame, -⟩
    · exact Or.inl (String.lt_trans hlt hnext)
    · exact Or.inl (hsame ▸ hlt)
  · rcases hnext with hnext | ⟨hsame, hlater⟩
    · exact Or.inl (hname ▸ hnext)
    · exact Or.inr ⟨hname.trans hsame, String.le_trans hstamp hlater⟩

lemma precedes_total (row other : Row) :
    (row.precedes other || other.precedes row) = true := by
  rw [Bool.or_eq_true, precedes_iff, precedes_iff]
  by_cases hname : row.name = other.name
  · rcases String.le_total row.stamp other.stamp with hstamp | hstamp
    · exact Or.inl (Or.inr ⟨hname, hstamp⟩)
    · exact Or.inr (Or.inr ⟨hname.symm, hstamp⟩)
  · rcases String.le_total row.name other.name with hle | hge
    · exact Or.inl (Or.inl (Std.lt_of_le_of_ne hle hname))
    · exact Or.inr (Or.inl (Std.lt_of_le_of_ne hge (Ne.symm hname)))

lemma mergeSort_precedes (h : Database.InTimeOrder rows) :
    rows.mergeSort Row.precedes = rows.mergeSort fun a b => a.name ≤ b.name := by
  apply eq_of_filter_key Row.name
  · refine (List.pairwise_mergeSort precedes_trans precedes_total rows).imp fun {a b} hab => ?_
    rcases (precedes_iff a b).mp hab with hlt | ⟨hname, -⟩
    · exact Std.le_of_lt hlt
    · exact hname ▸ String.le_refl _
  · exact pairwise_mergeSort_key Row.name rows
  · intro name
    rw [filter_mergeSort_key Row.name rows name]
    refine filter_mergeSort precedes_trans precedes_total ?_
    refine (List.Pairwise.and_mem.mp (h.sublist List.filter_sublist)).imp ?_
    rintro a b ⟨ha, hb, hstamp⟩
    have haname : a.name = name := by simpa using (List.mem_filter.mp ha).2
    have hbname : b.name = name := by simpa using (List.mem_filter.mp hb).2
    exact (precedes_iff a b).mpr (Or.inr ⟨haname.trans hbname.symm, hstamp⟩)

lemma whole_iff_of_shows {shownRows : List Summary}
    (h : List.Forall₂ Shows shownRows entries) :
    shownRows.map Summary.name = entries.map (fun entry => namedBy entry.2) ↔
      ∀ entry ∈ entries, '\x00' ∉ (namedBy entry.2).toList := by
  induction h with
  | nil => simp
  | cons hrow _ ih =>
    rw [List.map_cons, List.map_cons, List.cons.injEq, ih, hrow.2, shown_eq_iff,
      List.forall_mem_cons]

lemma Row.Holds.shows {row : Row} {entry : String × Json} (h : row.Holds entry) :
    Shows row.summary entry := by
  refine ⟨h.id, ?_⟩
  rw [← h.name]
  rfl

lemma lists_of_holds {minted : ℕ} (h : database.Holds documents) (hrising : Rising mint)
    (hstamped : Stamped mint minted database.rows) :
    ∃ entries, Lists mint documents entries database.list := by
  have hsorted := sortedByName_mergeSort documents
  have hshows : List.Forall₂ Shows database.list
      (documents.mergeSort fun a b => namedBy a.2 ≤ namedBy b.2) := by
    rw [Database.list, mergeSort_precedes (hstamped.inTimeOrder hrising),
      List.forall₂_map_left_iff]
    exact (mergeSort_holds h).imp fun _ _ hrow => hrow.shows
  refine ⟨_, hsorted, hshows, fun row hrow => ?_, ?_⟩
  · obtain ⟨stored, hstored, rfl⟩ := List.mem_map.mp hrow
    obtain ⟨n, -, hmint⟩ := hstamped.given stored (List.mem_mergeSort.mp hstored)
    exact ⟨n, hmint⟩
  · simp only [whole_iff_of_shows hshows, hsorted.perm.mem_iff]

end Documents

section Sessions

variable {path otherPath : String} {mint otherMint : ℕ → String × String}
  {start otherStart : Files} {session other : Session} {ledger otherLedger : Ledger}

lemma Reachable.list (h : Reachable path mint start session ledger) (hrising : Rising mint)
    (handle : ℕ) :
    ledger.Answers handle (session.step path mint (.list handle)).2 fun answer =>
      ∃ entries rows, answer = .listed rows ∧ Lists mint ledger.documents entries rows := by
  refine Ledger.Answers.imp (h.ask handle (fun database => .ok database.list) Answer.listed) ?_
  rintro _ ⟨database, hholds, hstamped, rfl⟩
  obtain ⟨entries, hlists⟩ := lists_of_holds hholds hrising hstamped
  exact ⟨entries, database.list, rfl, hlists⟩

lemma rows_of_shows {entries : Entries Json} {rows : List Summary}
    (h : List.Forall₂ Shows rows entries) :
    rows.map (fun row => (row.id, row.name)) =
      entries.map fun entry => (entry.1, shown (namedBy entry.2)) := by
  induction h with
  | nil => rfl
  | cons hrow _ ih => rw [List.map_cons, List.map_cons, ih, hrow.1, hrow.2]

lemma Lists.unique {documents others entries otherEntries : Entries Json}
    {rows otherRows : List Summary} (h : Lists mint documents entries rows)
    (ho : Lists otherMint others otherEntries otherRows)
    (hsame : ∀ name, withName name others = withName name documents) :
    otherRows.map (fun row => (row.id, row.name)) = rows.map fun row => (row.id, row.name) := by
  rw [rows_of_shows ho.shows, rows_of_shows h.shows, h.sorted.unique ho.sorted hsame]

lemma Reachable.lists (h : Reachable path mint start session ledger) (hrising : Rising mint)
    {handle : ℕ} {rows : List Summary}
    (hlisted : (session.step path mint (.list handle)).2 = .listed rows) :
    ∃ entries, Lists mint ledger.documents entries rows := by
  have hanswers := h.list hrising handle
  rw [hlisted, Ledger.Answers] at hanswers
  split at hanswers
  · cases hanswers
  · split at hanswers
    · obtain ⟨entries, found, hfound, hlists⟩ := hanswers
      obtain rfl := Answer.listed.inj hfound
      exact ⟨entries, hlists⟩
    · obtain ⟨fault, hfault⟩ := hanswers
      cases hfault

/-- A database that was made lists its live documents, each once, by the bytes of their names and
otherwise in the order they came. The list is the same however documents with different names came
one after another. A name with a U+0000 is not shown as a whole. -/
theorem list_answer (h : Reachable path mint start session ledger) (hrising : Rising mint)
    (handle : ℕ) :
    (Entries.keys ledger.documents).Nodup ∧
      (∀ entry ∈ ledger.documents,
        entry.2.member? "name" = some (.string (namedBy entry.2))) ∧
      (ledger.Answers handle (session.step path mint (.list handle)).2 fun answer =>
        ∃ entries rows, answer = .listed rows ∧ Lists mint ledger.documents entries rows) ∧
      ∀ otherPath otherMint otherStart other otherLedger otherHandle rows otherRows,
        Reachable otherPath otherMint otherStart other otherLedger → Rising otherMint →
        (∀ name, withName name otherLedger.documents = withName name ledger.documents) →
        (session.step path mint (.list handle)).2 = .listed rows →
        (other.step otherPath otherMint (.list otherHandle)).2 = .listed otherRows →
        otherRows.map (fun row => (row.id, row.name)) = rows.map fun row => (row.id, row.name) := by
  refine ⟨h.represents.distinct, fun entry hentry => ?_, h.list hrising handle, ?_⟩
  · obtain ⟨provider, hprovider⟩ := h.represents.accepted entry hentry
    rw [Provider.ofDocument_name entry.2 provider hprovider, namedBy_of_accepted hprovider]
  · intro otherPath otherMint otherStart other otherLedger otherHandle rows otherRows ho horising
      hsame hlisted holisted
    obtain ⟨entries, hlists⟩ := h.lists hrising hlisted
    obtain ⟨otherEntries, holists⟩ := ho.lists horising holisted
    exact hlists.unique holists hsame

end Sessions

section Samples

def sampleNamed (name : String) : Json :=
  .object [("name", .string name)]

def mixedRun : Session × Ledger :=
  sampleRun [.openWith .writing, .insert 0 (sampleNamed "b"), .insert 0 (sampleNamed "a"),
    .insert 0 (sampleNamed "b")]

def mixedSorted : Entries Json :=
  [("ii", sampleNamed "a"), ("i", sampleNamed "b"), ("iii", sampleNamed "b")]

lemma sortedByName_mixed : SortedByName mixedRun.2.documents mixedSorted := by
  have hdocuments : mixedRun.2.documents =
      [("i", sampleNamed "b"), ("ii", sampleNamed "a"), ("iii", sampleNamed "b")] := by
    rfl
  have ha : namedBy (sampleNamed "a") = "a" := by decide
  have hb : namedBy (sampleNamed "b") = "b" := by decide
  rw [hdocuments]
  refine ⟨List.Perm.swap _ _ _, ?_, fun name => ?_⟩
  · simp only [Text.bytes_le_iff, mixedSorted]
    decide
  · by_cases hname : "b" = name
    · subst hname
      simp [withName, mixedSorted, ha, hb]
    · simp [withName, mixedSorted, List.filter_cons, ha, hb, hname]

theorem list_answer_sample :
    Reachable samplePath sampleMint {} mixedRun.1 mixedRun.2 ∧
      ∃ rows, (mixedRun.1.step samplePath sampleMint (.list 0)).2 = .listed rows ∧
        rows.map (fun row => (row.id, row.name)) = [("ii", "a"), ("i", "b"), ("iii", "b")] := by
  have hreachable : Reachable samplePath sampleMint {} mixedRun.1 mixedRun.2 := reachable_sample _
  obtain ⟨-, -, hanswers, -⟩ := list_answer hreachable rising_sample 0
  have hhandle : mixedRun.2.handles[0]? = some .writing := rfl
  have hready : mixedRun.2.ready = true := rfl
  rw [Ledger.Answers, hhandle] at hanswers
  simp only [hready, if_true] at hanswers
  obtain ⟨entries, rows, hlisted, hlists⟩ := hanswers
  refine ⟨hreachable, rows, hlisted, ?_⟩
  rw [rows_of_shows hlists.shows, ← hlists.sorted.unique sortedByName_mixed fun _ => rfl]
  rfl

theorem list_cuts_name :
    let state := sampleRun [.openWith .writing, .insert 0 (sampleNamed "a\x00b")]
    Reachable samplePath sampleMint {} state.1 state.2 ∧
      state.2.documents = [("i", sampleNamed "a\x00b")] ∧
      (state.1.step samplePath sampleMint (.list 0)).2 = .listed [⟨"i", "a", ""⟩] :=
  ⟨reachable_sample _, by decide +kernel⟩

end Samples

end ContentHub.Store
