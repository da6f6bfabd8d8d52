import ContentHub.Proofs.Store.Refinement
import ContentHub.Proofs.Store.Writing
import Mathlib.Tactic

namespace ContentHub.Store

def Rising (mint : ℕ → String × String) : Prop :=
  ∀ m n, m < n → (mint m).2 < (mint n).2

def Row.Minted (mint : ℕ → String × String) (minted : ℕ) (row : Row) : Prop :=
  ∃ n < minted, mint n = (row.id, row.stamp)

/-- The ids and times of the rows were given out, and those of later rows later. -/
structure Stamped (mint : ℕ → String × String) (minted : ℕ) (rows : List Row) : Prop where
  given : ∀ row ∈ rows, Row.Minted mint minted row
  later : rows.Pairwise fun row other =>
    ∃ m n, m < n ∧ mint m = (row.id, row.stamp) ∧ mint n = (other.id, other.stamp)

variable {path : String} {mint : ℕ → String × String} {start : Files} {session : Session}
  {ledger : Ledger} {minted later : ℕ} {rows others : List Row} {documents : Entries Json}
  {α : Type}

lemma stamped_nil : Stamped mint minted [] :=
  ⟨List.forall_mem_nil _, .nil⟩

lemma Stamped.mono (h : Stamped mint minted rows) (hle : minted ≤ later) :
    Stamped mint later rows := by
  refine ⟨fun row hrow => ?_, h.later⟩
  obtain ⟨n, hn, hmint⟩ := h.given row hrow
  exact ⟨n, hn.trans_le hle, hmint⟩

lemma Stamped.filter (h : Stamped mint minted rows) (p : Row → Bool) :
    Stamped mint minted (rows.filter p) :=
  ⟨fun row hrow => h.given row (List.mem_filter.mp hrow).1, h.later.filter p⟩

lemma Stamped.concat (h : Stamped mint minted rows) (name text : String) :
    Stamped mint (minted + 1) (rows ++ [⟨(mint minted).1, name, text, (mint minted).2⟩]) := by
  constructor
  · intro row hrow
    rcases List.mem_append.mp hrow with hrow | hrow
    · exact (h.mono (Nat.le_succ minted)).given row hrow
    · obtain rfl := List.mem_singleton.mp hrow
      exact ⟨minted, Nat.lt_succ_self minted, rfl⟩
  · rw [List.pairwise_append]
    refine ⟨h.later, List.pairwise_singleton _ _, fun row hrow other hother => ?_⟩
    obtain rfl := List.mem_singleton.mp hother
    obtain ⟨n, hn, hmint⟩ := h.given row hrow
    exact ⟨n, minted, hn, hmint, rfl⟩

lemma Stamped.inTimeOrder (h : Stamped mint minted rows) (hrising : Rising mint) :
    Database.InTimeOrder rows := by
  refine h.later.imp fun {row other} hlater => ?_
  obtain ⟨m, n, hlt, hm, hn⟩ := hlater
  have hstamps := hrising m n hlt
  rw [hm, hn] at hstamps
  exact Std.le_of_lt hstamps

lemma eq_of_stamped (hfresh : ∀ m n, (mint m).1 = (mint n).1 → m = n)
    (h : List.Forall₂ Row.Holds rows documents)
    (hstamped : ∀ row ∈ rows, Row.Minted mint minted row)
    (ho : List.Forall₂ Row.Holds others documents)
    (hostamped : ∀ row ∈ others, Row.Minted mint later row) : others = rows := by
  induction h generalizing others with
  | nil => exact List.forall₂_nil_right_iff.mp ho
  | @cons row entry rows documents hrow _ ih =>
    obtain ⟨other, rest, hother, hrest, rfl⟩ := List.forall₂_cons_right_iff.mp ho
    obtain ⟨hstamp, hstamps⟩ := List.forall_mem_cons.mp hstamped
    obtain ⟨hostamp, hostamps⟩ := List.forall_mem_cons.mp hostamped
    have hid : other.id = row.id := hother.id.trans hrow.id.symm
    have htext : other.text = row.text := hother.text.trans hrow.text.symm
    have hname : other.name = row.name := by
      obtain ⟨provider, hprovider, hname⟩ := hrow.named
      obtain ⟨provider', hprovider', hname'⟩ := hother.named
      rw [hprovider] at hprovider'
      rw [hname, hname', Except.ok.inj hprovider']
    have htime : other.stamp = row.stamp := by
      obtain ⟨n, -, hn⟩ := hstamp
      obtain ⟨m, -, hm⟩ := hostamp
      have hsame : m = n := hfresh m n (by rw [hn, hm, hid])
      subst hsame
      exact congrArg Prod.snd (hm.symm.trans hn)
    have hsame : other = row := by
      cases row
      cases other
      simp_all only
    rw [ih hstamps hrest hostamps, hsame]

namespace Session

lemma minted_withHandle (session : Session) (handle : ℕ)
    (act : Connection → Files → Files × Except Error α) (answer : α → Answer) :
    (session.withHandle handle act answer).1.minted = session.minted := by
  simp only [withHandle]
  split <;> rfl

lemma minted_openWith (session : Session) (access : Access) :
    (session.step path mint (.openWith access)).1.minted = session.minted := by
  simp only [step]
  split <;> rfl

lemma minted_le_step (session : Session) (request : Request) :
    session.minted ≤ (session.step path mint request).1.minted := by
  cases request with
  | openWith access => exact (minted_openWith session access).ge
  | insert handle document =>
    simp only [step, minted_withHandle]
    exact Nat.le_succ session.minted
  | _ => simp only [step, minted_withHandle, Nat.le_refl]

end Session

namespace Represents

open Session

variable (h : Represents path mint start session ledger)
include h

lemma rowsAt_ask (handle : ℕ) (question : Database → Except Error α) (answer : α → Answer) :
    rowsAt (databasePlace path start)
        (session.withHandle handle (fun connection => connection.ask question) answer).1.files =
      rowsAt (databasePlace path start) session.files := by
  simp only [Session.withHandle, h.getElem?_handles]
  cases ledger.handles[handle]? with
  | none => rfl
  | some access =>
    obtain ⟨later, htidied, hask⟩ :=
      Connection.ask_cases (connectionTo path start access) question session.files
    have hlater :
        ((connectionTo path start access).ask question session.files).1 = later := by
      rcases hask with ⟨fault, hask⟩ | ⟨database, hask, -⟩ <;> rw [hask]
    simp only [Option.map_some, hlater]
    exact rowsAt_congr htidied.kept

lemma rowsAt_change (handle : ℕ) (edit : Database → Except Error (α × Database))
    (answer : α → Answer) :
    let changed := session.withHandle handle (fun connection => connection.change edit) answer
    rowsAt (databasePlace path start) changed.1.files =
        rowsAt (databasePlace path start) session.files ∨
      ∃ database x written, edit database = .ok (x, written) ∧
        rowsAt (databasePlace path start) session.files = database.rows ∧
        rowsAt (databasePlace path start) changed.1.files = written.rows := by
  simp only [Session.withHandle, h.getElem?_handles]
  cases ledger.handles[handle]? with
  | none => exact Or.inl rfl
  | some access =>
    rcases Connection.change_cases (connectionTo path start access) edit session.files with
      ⟨later, e, hchange, htidied, -⟩ | ⟨later, database, x, written, hchange, -, hbefore, hedit,
        hafter, -⟩
    · simp only [Option.map_some, hchange]
      exact Or.inl (rowsAt_congr htidied.kept)
    · simp only [Option.map_some, hchange]
      exact Or.inr ⟨database, x, written, hedit, rowsAt_of_node? hbefore, rowsAt_of_node? hafter⟩

lemma rowsAt_openWith (access : Access) :
    rowsAt (databasePlace path start) (session.step path mint (.openWith access)).1.files =
      rowsAt (databasePlace path start) session.files := by
  have hfiles : (session.step path mint (.openWith access)).1.files =
      (Connection.openWith access path session.files).1 := by
    simp only [Session.step]
    split <;> simp_all
  have hplace := databasePlace_current h.current path
  rw [hfiles, ← hplace]
  by_cases hvacant : Vacant (databasePlace path session.files) session.files
  · -- opening leaves the place without a database, or makes an empty one
    rw [rowsAt_vacant hvacant]
    obtain ⟨later, -, ⟨hlater, ⟨e, hopen⟩ | hopen⟩ | ⟨hopen, hmade, -⟩⟩ :=
      Connection.openWith_vacant h.setting.onDisk access hvacant
    · rw [hopen, rowsAt_vacant hlater]
    · rw [hopen, rowsAt_vacant hlater]
    · rw [hopen, rowsAt_of_node? hmade]
  · obtain ⟨database, hdatabase⟩ : ∃ database, session.files.node?
        (databasePlace path session.files) = some (.database database) := by
      simpa [Vacant] using hvacant
    obtain ⟨later, hlater, ⟨e, hopen⟩ | hopen⟩ :=
      Connection.openWith_database h.setting.onDisk access hdatabase
    · rw [hopen, rowsAt_congr hlater.kept]
    · rw [hopen, rowsAt_congr hlater.kept]

lemma stamped_step
    (hstamped : Stamped mint session.minted (rowsAt (databasePlace path start) session.files))
    (request : Request) :
    let later := (session.step path mint request).1
    Stamped mint later.minted (rowsAt (databasePlace path start) later.files) := by
  cases request with
  | openWith access =>
    simp only [h.rowsAt_openWith access, minted_openWith]
    exact hstamped
  | insert handle document =>
    simp only [Session.step, Connection.insert, minted_withHandle]
    rcases h.mint_next.rowsAt_change handle _ _ with hsame | ⟨database, x, written, hedit, hbefore,
      hafter⟩
    · rw [hsame]
      exact hstamped.mono (Nat.le_succ _)
    · rw [hafter]
      rw [Database.insert] at hedit
      cases hprovider : Provider.ofDocument document with
      | error e =>
        rw [hprovider] at hedit
        cases hedit
      | ok provider =>
        rw [hprovider] at hedit
        obtain ⟨-, rfl⟩ := Prod.mk.inj (Except.ok.inj hedit)
        rw [← hbefore]
        exact hstamped.concat provider.name document.print
  | erase handle id =>
    simp only [Session.step, Connection.erase, minted_withHandle]
    rcases h.rowsAt_change handle _ _ with hsame | ⟨database, x, written, hedit, hbefore, hafter⟩
    · rw [hsame]
      exact hstamped
    · obtain ⟨-, rfl⟩ := Prod.mk.inj (Except.ok.inj hedit)
      rw [hafter, Database.erase, ← hbefore]
      exact hstamped.filter _
  | get handle id =>
    simp only [Session.step, Connection.get?, minted_withHandle, h.rowsAt_ask]
    exact hstamped
  | list handle =>
    have hrows := h.rowsAt_ask handle (fun database => .ok database.list) Answer.listed
    simp only [Session.step, minted_withHandle]
    exact hrows.symm ▸ hstamped
  | search handle filter =>
    simp only [Session.step, Connection.search, minted_withHandle, h.rowsAt_ask]
    exact hstamped

end Represents

lemma Reachable.stamped (h : Reachable path mint start session ledger) :
    Stamped mint session.minted (rowsAt (databasePlace path start) session.files) := by
  induction h with
  | start setting =>
    rw [rowsAt_vacant setting.vacant]
    exact stamped_nil
  | step h request ih => exact h.represents.stamped_step ih request

lemma Reachable.database (h : Reachable path mint start session ledger)
    (hready : ledger.ready = true) :
    ∃ database, Serving (databasePlace path start) database session.files ∧
      database.Holds ledger.documents ∧ Stamped mint session.minted database.rows := by
  obtain ⟨-, -, database, hserving, hholds⟩ := h.represents.serving hready
  refine ⟨database, hserving, hholds, ?_⟩
  rw [← rowsAt_of_node? hserving.kept]
  exact h.stamped

lemma Reachable.ask (h : Reachable path mint start session ledger) (handle : ℕ)
    (question : Database → Except Error α) (answer : α → Answer) :
    ledger.Answers handle
      (session.withHandle handle (fun connection => connection.ask question) answer).2
      fun given => ∃ database : Database, database.Holds ledger.documents ∧
        Stamped mint session.minted database.rows ∧
        given = .ofResult answer (question database) := by
  have hrepresents := h.represents
  simp only [Session.withHandle, Ledger.Answers, hrepresents.getElem?_handles]
  cases ledger.handles[handle]? with
  | none => rfl
  | some access =>
    simp only [Option.map_some]
    cases hready : ledger.ready with
    | false =>
      obtain ⟨later, fault, hask, -⟩ := hrepresents.ask_waiting hready access question
      rw [hask]
      exact ⟨fault, rfl⟩
    | true =>
      obtain ⟨database, hserving, hholds, hstamped⟩ := h.database hready
      obtain ⟨later, hask, -⟩ := Connection.ask_serving (connectionTo path start access) question
        (hrepresents.serving hready).1 hserving
      rw [hask]
      exact ⟨database, hholds, hstamped, rfl⟩

inductive Question
  | get (id : String)
  | list
  | search (filter : Filter)

namespace Question

def on (handle : ℕ) : Question → Request
  | .get id => .get handle id
  | .list => .list handle
  | .search filter => .search handle filter

def answer (database : Database) : Question → Answer
  | .get id => .ofResult .found (database.get? id)
  | .list => .listed database.list
  | .search filter => .ofResult .searched (database.search filter)

end Question

lemma Reachable.answers (h : Reachable path mint start session ledger) (handle : ℕ)
    (question : Question) :
    ledger.Answers handle (session.step path mint (question.on handle)).2 fun given =>
      ∃ database : Database, database.Holds ledger.documents ∧
        Stamped mint session.minted database.rows ∧ given = question.answer database := by
  cases question with
  | get id => exact h.ask handle (fun database => database.get? id) Answer.found
  | list => exact h.ask handle (fun database => .ok database.list) Answer.listed
  | search filter => exact h.ask handle (fun database => database.search filter) Answer.searched

lemma Reachable.answer_eq {otherPath : String} {otherStart : Files} {other : Session}
    {otherLedger : Ledger} (h : Reachable path mint start session ledger)
    (ho : Reachable otherPath mint otherStart other otherLedger)
    (hsame : otherLedger.documents = ledger.documents) (hready : ledger.ready = true)
    (hoready : otherLedger.ready = true) {handle otherHandle : ℕ}
    (hhandle : ledger.handles[handle]? ≠ none)
    (hohandle : otherLedger.handles[otherHandle]? ≠ none) (question : Question) :
    (other.step otherPath mint (question.on otherHandle)).2 =
      (session.step path mint (question.on handle)).2 := by
  obtain ⟨access, haccess⟩ := Option.ne_none_iff_exists'.mp hhandle
  obtain ⟨otherAccess, hoaccess⟩ := Option.ne_none_iff_exists'.mp hohandle
  have hanswers := h.answers handle question
  have hoanswers := ho.answers otherHandle question
  simp only [Ledger.Answers, haccess, hoaccess, hready, hoready, hsame, if_true]
    at hanswers hoanswers
  obtain ⟨database, hholds, hstamped, hgiven⟩ := hanswers
  obtain ⟨otherDatabase, hoholds, hostamped, hogiven⟩ := hoanswers
  have hrows := eq_of_stamped h.represents.setting.fresh hholds hstamped.given hoholds
    hostamped.given
  have hdatabase : otherDatabase = database := congrArg Database.mk hrows
  rw [hgiven, hogiven, hdatabase]

lemma rising_sample : Rising sampleMint := by
  intro m n hlt
  obtain ⟨k, rfl⟩ := Nat.exists_eq_add_of_lt hlt
  have hlonger : List.replicate (m + (k + 1)) 't' =
      List.replicate m 't' ++ 't' :: List.replicate k 't' := by
    rw [List.replicate_add, List.replicate_succ]
  simp only [sampleMint, String.lt_iff, String.toList_ofList, Nat.add_assoc, hlonger]
  exact lt_append_cons _ _ _

end ContentHub.Store
