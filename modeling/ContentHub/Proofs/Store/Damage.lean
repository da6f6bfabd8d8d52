import ContentHub.Proofs.Store.Exchange
import ContentHub.Proofs.Store.Listing
import Mathlib.Tactic

/-!
Documents whose text was replaced by something else. A damaged text is seen only by those who ask
for its document and by searches; everything else is answered as if nothing had happened, and once
the document is deleted nothing is left of the damage.
-/

namespace ContentHub.Store

namespace Database

variable {database : Database} {id text : String}

def rewritten (id text : String) (row : Row) : Row :=
  if row.id == id then { row with text } else row

lemma rewritten_id (id text : String) (row : Row) : (rewritten id text row).id = row.id := by
  rw [rewritten]
  split <;> rfl

lemma rewritten_name (id text : String) (row : Row) : (rewritten id text row).name = row.name := by
  rw [rewritten]
  split <;> rfl

lemma rewritten_stamp (id text : String) (row : Row) :
    (rewritten id text row).stamp = row.stamp := by
  rw [rewritten]
  split <;> rfl

lemma rewritten_summary (id text : String) (row : Row) :
    (rewritten id text row).summary = row.summary := by
  rw [rewritten]
  split <;> rfl

lemma rows_overwrite (id text : String) (database : Database) :
    (database.overwrite id text).rows = database.rows.map (rewritten id text) :=
  rfl

lemma row?_overwrite (id text other : String) (database : Database) :
    (database.overwrite id text).row? other =
      (database.row? other).map (rewritten id text) := by
  simp only [row?, rows_overwrite, List.find?_map, Function.comp_def, rewritten_id]

lemma get?_overwrite_of_ne (text : String) {other : String} (database : Database)
    (h : other ≠ id) : (database.overwrite id text).get? other = database.get? other := by
  rw [get?, get?, row?_overwrite]
  cases hrow : database.row? other with
  | none => rfl
  | some row =>
    have hid : row.id = other := by simpa using List.find?_some hrow
    have hsame : rewritten id text row = row := by
      rw [rewritten, if_neg (by simp [hid, h])]
    rw [Option.map_some, hsame]

lemma overwrite_of_absent (text : String) (h : database.row? id = none) :
    database.overwrite id text = database := by
  have hrows : database.rows.map (rewritten id text) = database.rows := by
    calc
      database.rows.map (rewritten id text) = database.rows.map fun row => row := by
        refine List.map_congr_left fun row hrow => ?_
        rw [rewritten, if_neg (List.find?_eq_none.mp h row hrow)]
      _ = database.rows := List.map_id' database.rows
  cases database
  exact congrArg Database.mk hrows

lemma list_overwrite (id text : String) (database : Database) :
    (database.overwrite id text).list = database.list := by
  have hsort : (database.rows.mergeSort Row.precedes).map (rewritten id text) =
      (database.rows.map (rewritten id text)).mergeSort Row.precedes :=
    List.map_mergeSort fun a _ b _ => by
      rw [Row.precedes, Row.precedes, rewritten_name, rewritten_name, rewritten_stamp,
        rewritten_stamp]
  rw [list, list, rows_overwrite, ← hsort, List.map_map]
  exact List.map_congr_left fun row _ => rewritten_summary id text row

lemma erase_overwrite (id text other : String) (database : Database) :
    (database.overwrite id text).erase other = (database.erase other).overwrite id text := by
  rw [erase, rows_overwrite, List.filter_map, overwrite, erase]
  simp only [Function.comp_def, rewritten_id]
  rfl

lemma insert_overwrite (text : String) {new : String} (stamp : String) (document : Json)
    (database : Database) (h : new ≠ id) :
    (database.overwrite id text).insert new stamp document =
      (database.insert new stamp document).map (overwrite id text) := by
  rw [insert, insert]
  cases Provider.ofDocument document with
  | error e => rfl
  | ok provider =>
    simp [Except.map, overwrite, h]

lemma get?_overwrite_self (text : String) (h : database.row? id ≠ none) :
    (database.overwrite id text).get? id =
      match Json.parse? (shown text) with
      | some document => .ok (some document)
      | none => .error (.storage (.unreadable id)) := by
  obtain ⟨row, hrow⟩ := Option.ne_none_iff_exists'.mp h
  have hid : row.id = id := by simpa using List.find?_some hrow
  have hrewritten : rewritten id text row = { row with text } := by
    rw [rewritten, if_pos (by simpa using hid)]
  have hchars : (shown text).toList = upToNul text.toList := by rw [shown, String.toList_ofList]
  rw [get?, row?_overwrite, hrow, Option.map_some, hrewritten]
  simp only [Row.document, Row.chars, Json.parse?_eq, hchars]
  cases Json.read? (upToNul text.toList) with
  | none => rw [hid]; rfl
  | some document => rfl

end Database

def Request.Reads (id : String) : Request → Prop
  | .get _ other => other = id
  | .search _ _ => True
  | _ => False

def readAs (id text : String) : Answer :=
  match Json.parse? text with
  | some document => .found (some document)
  | none => .refused (.storage (.unreadable id))

def Session.damage (place : Place) (id text : String) (session : Session) : Session :=
  match session.files.node? place with
  | some (.database database) =>
    { session with files := session.files.put place (.database (database.overwrite id text)) }
  | _ => session

structure Twins (place : Place) (id text : String) (session twin : Session) : Prop where
  handles : twin.handles = session.handles
  minted : twin.minted = session.minted
  exchanged : ∃ database : Database,
    Exchanged place database (database.overwrite id text) session.files twin.files

structure Given (path : String) (mint : ℕ → String × String) (start : Files) (id : String)
    (session : Session) (ledger : Ledger) : Prop where
  represents : Represents path mint start session ledger
  ready : ledger.ready = true
  given : ∃ n < session.minted, id = (mint n).1

section Sessions

variable {path : String} {mint : ℕ → String × String} {start : Files} {session twin : Session}
  {ledger : Ledger} {id text : String} {α : Type}

lemma twins_damage {place : Place} {database : Database}
    (h : session.files.node? place = some (.database database)) (id text : String) :
    Twins place id text session (session.damage place id text) := by
  rw [Session.damage, h]
  refine ⟨rfl, rfl, database, rfl, h, ?_, fun p hp => ?_⟩
  · exact Files.node?_put_self _ _ _ (ne_nil_of_database h)
  · exact Files.node?_put_of_ne _ _ _ _ hp

lemma ready_after (h : ledger.ready = true) (request : Request) (answer : Answer) :
    (ledger.after request answer).ready = true := by
  cases request <;> cases answer <;> simp [Ledger.after, h]

lemma Given.step (h : Given path mint start id session ledger) (request : Request) :
    Given path mint start id (session.step path mint request).1
      (ledger.after request (session.step path mint request).2) where
  represents := (h.represents.step request).1
  ready := ready_after h.ready request _
  given := by
    obtain ⟨n, hn, hid⟩ := h.given
    exact ⟨n, hn.trans_le (session.minted_le_step request), hid⟩

lemma Given.holds (h : Given path mint start id session ledger) {database : Database}
    (hdatabase : session.files.node? (databasePlace path start) = some (.database database)) :
    Serving (databasePlace path start) database session.files ∧
      database.Holds ledger.documents := by
  obtain ⟨-, -, found, hserving, hholds⟩ := h.represents.serving h.ready
  obtain rfl : found = database := by
    simpa using hserving.kept.symm.trans hdatabase
  exact ⟨hserving, hholds⟩

lemma given_of_live (h : Represents path mint start session ledger)
    (hlive : Entries.get? id ledger.documents ≠ none) :
    Given path mint start id session ledger := by
  obtain ⟨document, hdocument⟩ := Option.ne_none_iff_exists'.mp hlive
  have hentry := Entries.mem_of_get? id ledger.documents document hdocument
  refine ⟨h, ?_, h.minted _ hentry⟩
  by_contra hready
  rw [(h.waiting (by simpa using hready)).2.1] at hentry
  cases hentry

lemma Given.row?_ne_none (h : Given path mint start id session ledger)
    (hlive : Entries.get? id ledger.documents ≠ none) {database : Database}
    (hdatabase : session.files.node? (databasePlace path start) = some (.database database)) :
    database.row? id ≠ none := by
  rw [← Option.isSome_iff_ne_none, Database.row?_holds (h.holds hdatabase).2,
    Option.isSome_iff_ne_none]
  exact hlive

lemma Given.overwrite_gone (h : Given path mint start id session ledger)
    (hnone : Entries.get? id ledger.documents = none) {database : Database}
    (hdatabase : session.files.node? (databasePlace path start) = some (.database database))
    (text : String) : database.overwrite id text = database := by
  apply Database.overwrite_of_absent
  have hrow := Database.row?_holds (h.holds hdatabase).2 id
  rw [hnone] at hrow
  simpa using hrow

lemma Given.mint_ne (h : Given path mint start id session ledger) :
    (mint session.minted).1 ≠ id := by
  obtain ⟨n, hn, rfl⟩ := h.given
  intro hsame
  have := h.represents.setting.fresh _ _ hsame
  omega

namespace Twins

variable (h : Twins (databasePlace path start) id text session twin)
  (hrepresents : Represents path mint start session ledger)
include h hrepresents

lemma ask (handle : ℕ) (question : Database → Except Error α) (answer : α → Answer) :
    Twins (databasePlace path start) id text
        (session.withHandle handle (fun connection => connection.ask question) answer).1
        (twin.withHandle handle (fun connection => connection.ask question) answer).1 ∧
      ((∀ database, session.files.node? (databasePlace path start) = some (.database database) →
          question (database.overwrite id text) = question database) →
        (twin.withHandle handle (fun connection => connection.ask question) answer).2 =
          (session.withHandle handle (fun connection => connection.ask question) answer).2) := by
  obtain ⟨database, hexchanged⟩ := h.exchanged
  simp only [Session.withHandle, h.handles, hrepresents.getElem?_handles]
  cases ledger.handles[handle]? with
  | none => exact ⟨h, fun _ => rfl⟩
  | some access =>
    have hask := Connection.ask_exchanged (connectionTo path start access) hexchanged question
    simp only [Option.map_some]
    generalize (connectionTo path start access).ask question session.files = asked at hask ⊢
    generalize (connectionTo path start access).ask question twin.files = askedTwin at hask ⊢
    cases hask with
    | intro hlater hresult =>
      refine ⟨⟨rfl, h.minted, database, hlater⟩, fun hblind => ?_⟩
      rcases hresult with hsame | ⟨hone, hother⟩
      · rw [hsame]
      · rw [hone, hother, hblind database hexchanged.here]

lemma change (handle : ℕ) (edit : Database → Except Error (α × Database)) (answer : α → Answer)
    (hedit : ∀ database : Database,
      Agree (fun changed changedTwin => changedTwin.1 = changed.1 ∧
        changedTwin.2 = changed.2.overwrite id text) (edit database)
        (edit (database.overwrite id text))) :
    Twins (databasePlace path start) id text
        (session.withHandle handle (fun connection => connection.change edit) answer).1
        (twin.withHandle handle (fun connection => connection.change edit) answer).1 ∧
      (twin.withHandle handle (fun connection => connection.change edit) answer).2 =
        (session.withHandle handle (fun connection => connection.change edit) answer).2 := by
  obtain ⟨database, hexchanged⟩ := h.exchanged
  simp only [Session.withHandle, h.handles, hrepresents.getElem?_handles]
  cases ledger.handles[handle]? with
  | none => exact ⟨h, rfl⟩
  | some access =>
    obtain ⟨written, _, rfl, hchange⟩ := Connection.change_exchanged
      (S := fun one other => other = one.overwrite id text)
      (connectionTo path start access) hexchanged rfl edit (hedit database)
    simp only [Option.map_some]
    generalize (connectionTo path start access).change edit session.files = changed at hchange ⊢
    generalize (connectionTo path start access).change edit twin.files = changedTwin at hchange ⊢
    cases hchange with
    | intro hlater hresult =>
      subst hresult
      exact ⟨⟨rfl, h.minted, written, hlater⟩, rfl⟩

lemma openWith (hready : ledger.ready = true) (access : Access) :
    Twins (databasePlace path start) id text (session.step path mint (.openWith access)).1
        (twin.step path mint (.openWith access)).1 ∧
      (twin.step path mint (.openWith access)).2 =
        (session.step path mint (.openWith access)).2 := by
  obtain ⟨database, hexchanged⟩ := h.exchanged
  obtain ⟨-, hparent, -⟩ := hrepresents.serving hready
  have hplace := databasePlace_current hrepresents.current path
  rw [← hplace] at hexchanged ⊢
  have hopen := Connection.openWith_exchanged hrepresents.setting.onDisk hparent access hexchanged
  simp only [Session.step]
  generalize Connection.openWith access path session.files = opened at hopen ⊢
  generalize Connection.openWith access path twin.files = openedTwin at hopen ⊢
  cases hopen with
  | @intro later laterTwin result _ hlater hresult =>
    subst hresult
    cases result with
    | error e => exact ⟨⟨h.handles, h.minted, database, hlater⟩, rfl⟩
    | ok connection =>
      refine ⟨⟨?_, h.minted, database, hlater⟩, rfl⟩
      simp only [h.handles]

lemma erase (handle : ℕ) (other : String) :
    Twins (databasePlace path start) id text (session.step path mint (.erase handle other)).1
        (twin.step path mint (.erase handle other)).1 ∧
      (twin.step path mint (.erase handle other)).2 =
        (session.step path mint (.erase handle other)).2 := by
  apply h.change hrepresents
  intro database
  rw [Database.row?_overwrite, Option.isSome_map, Database.erase_overwrite]
  exact .ok ⟨rfl, rfl⟩

omit hrepresents in
lemma mint_next : Twins (databasePlace path start) id text
    { session with minted := session.minted + 1 } { twin with minted := session.minted + 1 } := by
  obtain ⟨database, hexchanged⟩ := h.exchanged
  exact ⟨h.handles, rfl, database, hexchanged⟩

lemma insert (hnew : (mint session.minted).1 ≠ id) (handle : ℕ) (document : Json) :
    Twins (databasePlace path start) id text (session.step path mint (.insert handle document)).1
        (twin.step path mint (.insert handle document)).1 ∧
      (twin.step path mint (.insert handle document)).2 =
        (session.step path mint (.insert handle document)).2 := by
  simp only [Session.step, Connection.insert, h.minted]
  apply h.mint_next.change hrepresents.mint_next
  intro database
  rw [Database.insert_overwrite text _ document database hnew]
  cases database.insert (mint session.minted).1 (mint session.minted).2 document with
  | error e => exact .error e
  | ok extended => exact .ok ⟨rfl, rfl⟩

end Twins

lemma Twins.step (h : Twins (databasePlace path start) id text session twin)
    (hgiven : Given path mint start id session ledger) (request : Request) :
    Twins (databasePlace path start) id text (session.step path mint request).1
        (twin.step path mint request).1 ∧
      (¬request.Reads id ∨ Entries.get? id ledger.documents = none →
        (twin.step path mint request).2 = (session.step path mint request).2) := by
  have hrepresents := hgiven.represents
  cases request with
  | openWith access =>
    obtain ⟨htwins, hsame⟩ := h.openWith hrepresents hgiven.ready access
    exact ⟨htwins, fun _ => hsame⟩
  | insert handle document =>
    obtain ⟨htwins, hsame⟩ := h.insert hrepresents hgiven.mint_ne handle document
    exact ⟨htwins, fun _ => hsame⟩
  | erase handle other =>
    obtain ⟨htwins, hsame⟩ := h.erase hrepresents handle other
    exact ⟨htwins, fun _ => hsame⟩
  | get handle other =>
    obtain ⟨htwins, hsame⟩ := h.ask hrepresents handle (fun database => database.get? other)
      Answer.found
    refine ⟨htwins, fun hreads => hsame fun database hdatabase => ?_⟩
    rcases hreads with hother | hnone
    · exact Database.get?_overwrite_of_ne text database hother
    · rw [hgiven.overwrite_gone hnone hdatabase]
  | list handle =>
    obtain ⟨htwins, hsame⟩ := h.ask hrepresents handle (fun database => .ok database.list)
      Answer.listed
    refine ⟨htwins, fun _ => hsame fun database _ => ?_⟩
    rw [Database.list_overwrite]
  | search handle filter =>
    obtain ⟨htwins, hsame⟩ := h.ask hrepresents handle (fun database => database.search filter)
      Answer.searched
    refine ⟨htwins, fun hreads => hsame fun database hdatabase => ?_⟩
    have hnone := hreads.resolve_left fun hnot => hnot trivial
    rw [hgiven.overwrite_gone hnone hdatabase]

lemma after_of_reads {request : Request} (h : request.Reads id) (answer : Answer) :
    ledger.after request answer = ledger := by
  cases request with
  | get handle other => rfl
  | search handle filter => rfl
  | _ => cases h

lemma Twins.run (h : Twins (databasePlace path start) id text session twin)
    (hgiven : Given path mint start id session ledger) (requests : List Request) :
    let state := run path mint (session, ledger) requests
    let damaged := run path mint (twin, ledger) requests
    damaged.2 = state.2 ∧ Twins (databasePlace path start) id text state.1 damaged.1 ∧
      Given path mint start id state.1 state.2 := by
  induction requests generalizing session twin ledger with
  | nil => exact ⟨rfl, h, hgiven⟩
  | cons request rest ih =>
    obtain ⟨htwins, hanswer⟩ := h.step hgiven request
    have hledger : ledger.after request (twin.step path mint request).2 =
        ledger.after request (session.step path mint request).2 := by
      by_cases hreads : request.Reads id
      · rw [after_of_reads hreads, after_of_reads hreads]
      · rw [hanswer (Or.inl hreads)]
    simp only [Store.run, hledger]
    exact ih htwins (hgiven.step request)

lemma Twins.get (h : Twins (databasePlace path start) id text session twin)
    (hgiven : Given path mint start id session ledger)
    (hlive : Entries.get? id ledger.documents ≠ none) (handle : ℕ) :
    ledger.Answers handle (twin.step path mint (.get handle id)).2 fun answer =>
      answer = readAs id (shown text) := by
  obtain ⟨database, hexchanged⟩ := h.exchanged
  obtain ⟨hserving, -⟩ := hgiven.holds hexchanged.here
  have hrow := hgiven.row?_ne_none hlive hexchanged.here
  simp only [Session.step, Session.withHandle, Ledger.Answers, h.handles,
    hgiven.represents.getElem?_handles, hgiven.ready, if_true]
  cases ledger.handles[handle]? with
  | none => rfl
  | some access =>
    obtain ⟨later, hask, -⟩ := Connection.ask_serving (connectionTo path start access)
      (fun database => database.get? id) (hgiven.represents.serving hgiven.ready).1
      (hexchanged.serving hserving)
    simp only [Option.map_some, Connection.get?, hask, Database.get?_overwrite_self text hrow]
    rw [readAs]
    cases Json.parse? (shown text) with
    | none => rfl
    | some document => rfl

/-- A damaged text is seen by those who ask for its document, who get what the text is now up to the
first U+0000, and by searches. Everything else is answered as without the damage, and once the
document is deleted everything is answered as by any store with the same documents. -/
theorem damage_contained (h : Reachable path mint start session ledger) (id text : String)
    (hlive : Entries.get? id ledger.documents ≠ none) (requests : List Request) :
    let place := databasePlace path start
    let state := run path mint (session, ledger) requests
    let damaged := run path mint (session.damage place id text, ledger) requests
    (∃ database, session.files.node? place = some (.database database) ∧
        database.row? id ≠ none ∧ (session.damage place id text).files.node? place =
          some (.database (database.overwrite id text))) ∧
      damaged.2 = state.2 ∧
      (∀ request, ¬request.Reads id ∨ Entries.get? id state.2.documents = none →
        (damaged.1.step path mint request).2 = (state.1.step path mint request).2) ∧
      (Entries.get? id state.2.documents ≠ none → ∀ handle,
        state.2.Answers handle (damaged.1.step path mint (.get handle id)).2 fun answer =>
          answer = readAs id (shown text) ∧ ('\x00' ∉ text.toList → answer = readAs id text)) ∧
      (Entries.get? id state.2.documents = none →
        ∀ otherPath otherStart other otherLedger handle otherHandle question,
          Reachable otherPath mint otherStart other otherLedger →
          otherLedger.documents = state.2.documents → otherLedger.ready = true →
          state.2.handles[handle]? ≠ none → otherLedger.handles[otherHandle]? ≠ none →
          (damaged.1.step path mint (Question.on handle question)).2 =
            (other.step otherPath mint (Question.on otherHandle question)).2) := by
  have hgiven := given_of_live h.represents hlive
  obtain ⟨-, -, database, hserving, -⟩ := hgiven.represents.serving hgiven.ready
  have hdamage : Twins (databasePlace path start) id text session
      (session.damage (databasePlace path start) id text) := twins_damage hserving.kept id text
  obtain ⟨hledger, htwins, hlater⟩ := hdamage.run hgiven requests
  intro place state damaged
  refine ⟨⟨database, hserving.kept, hgiven.row?_ne_none hlive hserving.kept, ?_⟩, hledger,
    fun request => (htwins.step hlater request).2, fun hstill handle => ?_, ?_⟩
  · obtain ⟨found, hexchanged⟩ := hdamage.exchanged
    have hsame : found = database := by simpa using hexchanged.here.symm.trans hserving.kept
    rw [← hsame]
    exact hexchanged.there
  · refine Ledger.Answers.imp (htwins.get hlater hstill handle) ?_
    rintro _ rfl
    exact ⟨rfl, fun hnul => by rw [(shown_eq_iff text).mpr hnul]⟩
  · intro hnone otherPath otherStart other otherLedger handle otherHandle question ho hsame hready
      hhandle hohandle
    rw [(htwins.step hlater (question.on handle)).2 (Or.inr hnone)]
    exact ((reachable_run h requests).answer_eq ho hsame hlater.ready hready hhandle hohandle
      question).symm

end Sessions

section Samples

def pairRun : Session × Ledger :=
  sampleRun [.openWith .writing, .insert 0 (sampleNamed "b"), .insert 0 (sampleNamed "a")]

def singleRun : Session × Ledger :=
  sampleRun [.openWith .writing, .insert 0 .null, .insert 0 (sampleNamed "a")]

def damagedSession (text : String) : Session :=
  pairRun.1.damage (databasePlace samplePath {}) "i" text

theorem damage_contained_sample :
    (Entries.get? "i" pairRun.2.documents).isSome ∧
      ((damagedSession "nonsense").step samplePath sampleMint (.get 0 "i")).2 =
        .refused (.storage (.unreadable "i")) ∧
      ((damagedSession "nonsense").step samplePath sampleMint (.list 0)).2 =
        (pairRun.1.step samplePath sampleMint (.list 0)).2 ∧
      ∀ question, ((run samplePath sampleMint (damagedSession "nonsense", pairRun.2)
          [.erase 0 "i"]).1.step samplePath sampleMint (Question.on 0 question)).2 =
        (singleRun.1.step samplePath sampleMint (Question.on 0 question)).2 := by
  have hreachable : Reachable samplePath sampleMint {} pairRun.1 pairRun.2 := reachable_sample _
  have hlive : Entries.get? "i" pairRun.2.documents ≠ none := by decide +kernel
  obtain ⟨-, -, hsame, hget, -⟩ := damage_contained hreachable "i" "nonsense" hlive []
  obtain ⟨-, -, -, -, hgone⟩ := damage_contained hreachable "i" "nonsense" hlive [.erase 0 "i"]
  refine ⟨rfl, ?_, hsame (.list 0) (Or.inl id), fun question => ?_⟩
  · have hhandle : pairRun.2.handles[0]? = some .writing := rfl
    have hready : pairRun.2.ready = true := rfl
    have hanswer := hget hlive 0
    simp only [run, Ledger.Answers, hhandle, hready, if_true] at hanswer
    rw [damagedSession, hanswer.1]
    rfl
  · exact hgone rfl samplePath {} singleRun.1 singleRun.2 0 0 question
      (reachable_sample _) (by decide +kernel) (by decide +kernel) (by decide +kernel)
      (by decide +kernel)

theorem damage_cut :
    Reachable samplePath sampleMint {} pairRun.1 pairRun.2 ∧
      pairRun.2.documents = [("i", sampleNamed "b"), ("ii", sampleNamed "a")] ∧
      Json.parse? "1\x00" = none ∧
      ((damagedSession "1\x00").step samplePath sampleMint (.get 0 "i")).2 =
        .found (some (.whole 1)) :=
  ⟨reachable_sample _, by decide +kernel⟩

end Samples

end ContentHub.Store
