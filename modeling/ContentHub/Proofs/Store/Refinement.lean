import ContentHub.Proofs.Json.ReadBack
import ContentHub.Proofs.Store.Session
import Mathlib.Tactic

/-!
A database behaves as the list of its live documents. `Represents` ties a session to its ledger;
every request keeps it and gets an answer that the ledger allows.
-/

namespace ContentHub.Store

open Files (KeepsDirectories)

/-- A session whose tree holds what its ledger says. Until the database is made there are only
handles that read, and nothing is at its place that they could read. -/
structure Represents (path : String) (mint : ℕ → String × String) (start : Files)
    (session : Session) (ledger : Ledger) : Prop where
  setting : Setting path mint start
  current : session.files.current = start.current
  handles : session.handles = ledger.handles.map (connectionTo path start)
  waiting : ledger.ready = false → Vacant (databasePlace path start) session.files ∧
    ledger.documents = [] ∧ ∀ access ∈ ledger.handles, access = .reading
  serving : ledger.ready = true → (locatorOf path).isFrozen = false ∧
    ParentMade path session.files ∧ ∃ database : Database,
      Serving (databasePlace path start) database session.files ∧ database.Holds ledger.documents
  minted : ∀ entry ∈ ledger.documents, ∃ n < session.minted, entry.1 = (mint n).1
  distinct : (Entries.keys ledger.documents).Nodup

variable {path : String} {mint : ℕ → String × String} {start : Files} {session : Session}
  {ledger : Ledger}

lemma represents_start (setting : Setting path mint start) :
    Represents path mint start ⟨start, [], 0⟩ {} where
  setting := setting
  current := rfl
  handles := rfl
  waiting _ := ⟨setting.vacant, rfl, by simp⟩
  serving h := by simp at h
  minted := by simp
  distinct := List.nodup_nil

namespace Represents

variable {α : Type}

lemma getElem?_handles (h : Represents path mint start session ledger) (handle : ℕ) :
    session.handles[handle]? = (ledger.handles[handle]?).map (connectionTo path start) := by
  rw [h.handles, List.getElem?_map]

lemma accepted (h : Represents path mint start session ledger) :
    ∀ entry ∈ ledger.documents, ∃ provider, Provider.ofDocument entry.2 = .ok provider := by
  cases hready : ledger.ready with
  | false => simp [(h.waiting hready).2.1]
  | true =>
    obtain ⟨-, -, database, -, hholds⟩ := h.serving hready
    exact Database.accepted_of_holds hholds

lemma tidied (h : Represents path mint start session ledger) (later : Files)
    (ht : Tidied (databasePlace path start) session.files later) :
    Represents path mint start { session with files := later } ledger where
  setting := h.setting
  current := ht.keeps.current.trans h.current
  handles := h.handles
  waiting hready := (h.waiting hready).imp_left fun hv => hv.tidied ht
  serving hready := by
    obtain ⟨hfrozen, hparent, database, hserving, hholds⟩ := h.serving hready
    exact ⟨hfrozen, hparent.keeps ht.keeps, database, hserving.tidied ht, hholds⟩
  minted := h.minted
  distinct := h.distinct

lemma ask_ready (h : Represents path mint start session ledger) (hready : ledger.ready = true)
    (access : Access) (question : Database → Except Error α) :
    ∃ later database, (connectionTo path start access).ask question session.files =
        (later, question database) ∧ database.Holds ledger.documents ∧
      Represents path mint start { session with files := later } ledger := by
  obtain ⟨hfrozen, -, database, hserving, hholds⟩ := h.serving hready
  obtain ⟨later, hask, htidied⟩ :=
    Connection.ask_serving (connectionTo path start access) question hfrozen hserving
  exact ⟨later, database, hask, hholds, h.tidied later htidied⟩

lemma ask_waiting (h : Represents path mint start session ledger) (hwaiting : ledger.ready = false)
    (access : Access) (question : Database → Except Error α) :
    ∃ later fault, (connectionTo path start access).ask question session.files =
        (later, .error (.storage (.engine fault))) ∧
      Represents path mint start { session with files := later } ledger := by
  obtain ⟨later, fault, hask, htidied⟩ :=
    Connection.ask_vacant (connectionTo path start access) question (h.waiting hwaiting).1
  exact ⟨later, fault, hask, h.tidied later htidied⟩

lemma ask (h : Represents path mint start session ledger) (handle : ℕ)
    (question : Database → Except Error α) (answer : α → Answer) :
    let result := session.withHandle handle (fun connection => connection.ask question) answer
    Represents path mint start result.1 ledger ∧
      ledger.Answers handle result.2 fun given => ∃ database : Database,
        database.Holds ledger.documents ∧ given = .ofResult answer (question database) := by
  simp only [Session.withHandle, Ledger.Answers, h.getElem?_handles]
  cases ledger.handles[handle]? with
  | none => exact ⟨h, rfl⟩
  | some access =>
    simp only [Option.map_some]
    cases hready : ledger.ready with
    | false =>
      obtain ⟨later, fault, hask, hlater⟩ := h.ask_waiting hready access question
      rw [hask]
      exact ⟨hlater, fault, rfl⟩
    | true =>
      obtain ⟨later, database, hask, hholds, hlater⟩ := h.ask_ready hready access question
      rw [hask]
      exact ⟨hlater, database, hholds, rfl⟩

lemma ready_of_writing (h : Represents path mint start session ledger) (handle : ℕ)
    (hhandle : ledger.handles[handle]? = some .writing) : ledger.ready = true := by
  by_contra hready
  have hreading := (h.waiting (by simpa using hready)).2.2 _ (List.mem_of_getElem? hhandle)
  cases hreading

lemma written (h : Represents path mint start session ledger) (hready : ledger.ready = true)
    (later : Files) (database : Database) (documents : Entries Json)
    (hserving : Serving (databasePlace path start) database later)
    (hkeeps : KeepsDirectories session.files later) (hholds : database.Holds documents)
    (hminted : ∀ entry ∈ documents, ∃ n < session.minted, entry.1 = (mint n).1)
    (hdistinct : (Entries.keys documents).Nodup) :
    Represents path mint start { session with files := later } { ledger with documents } where
  setting := h.setting
  current := hkeeps.current.trans h.current
  handles := h.handles
  waiting hwaiting := absurd (hready.symm.trans hwaiting) (by simp)
  serving _ :=
    ⟨(h.serving hready).1, (h.serving hready).2.1.keeps hkeeps, database, hserving, hholds⟩
  minted := hminted
  distinct := hdistinct

lemma change_reading (h : Represents path mint start session ledger) (handle : ℕ)
    (edit : Database → Except Error (α × Database)) (answer : α → Answer)
    (hhandle : ledger.handles[handle]? = some .reading) :
    session.withHandle handle (fun connection => connection.change edit) answer =
      (session, .refused (.storage .readOnly)) := by
  simp only [Session.withHandle, h.getElem?_handles, hhandle, Option.map_some]
  rw [Connection.change_reading (connectionTo path start .reading) edit session.files rfl]
  rfl

lemma change_waiting (h : Represents path mint start session ledger)
    (hwaiting : ledger.ready = false) (handle : ℕ)
    (edit : Database → Except Error (α × Database)) (answer : α → Answer) :
    (session.withHandle handle (fun connection => connection.change edit) answer).1 = session := by
  cases hhandle : ledger.handles[handle]? with
  | none => simp [Session.withHandle, h.getElem?_handles, hhandle]
  | some access =>
    obtain rfl := (h.waiting hwaiting).2.2 access (List.mem_of_getElem? hhandle)
    rw [h.change_reading handle edit answer hhandle]

lemma change_writing (h : Represents path mint start session ledger) (handle : ℕ)
    (edit : Database → Except Error (α × Database)) (answer : α → Answer)
    (hhandle : ledger.handles[handle]? = some .writing) :
    ∃ database : Database, database.Holds ledger.documents ∧
      (∀ e, edit database = .error e → ∃ later,
        session.withHandle handle (fun connection => connection.change edit) answer =
          ({ session with files := later }, .refused e) ∧
        Represents path mint start { session with files := later } ledger) ∧
      ∀ x written, edit database = .ok (x, written) → ∃ later,
        session.withHandle handle (fun connection => connection.change edit) answer =
          ({ session with files := later }, answer x) ∧
        Serving (databasePlace path start) written later ∧
        KeepsDirectories session.files later := by
  obtain ⟨hfrozen, -, database, hserving, hholds⟩ := h.serving (h.ready_of_writing handle hhandle)
  simp only [Session.withHandle, h.getElem?_handles, hhandle, Option.map_some]
  refine ⟨database, hholds, fun e hedit => ?_, fun x written hedit => ?_⟩
  · obtain ⟨later, hchange, htidied⟩ :=
      Connection.change_refused (connectionTo path start .writing) edit e rfl hfrozen hserving hedit
    exact ⟨later, by rw [hchange]; rfl, h.tidied later htidied⟩
  · obtain ⟨later, hchange, hwritten, hkeeps⟩ :=
      Connection.change_serving (connectionTo path start .writing) edit x written rfl hfrozen
        (connectionTo_apart h.setting.onDisk .writing) hserving hedit
    exact ⟨later, by rw [hchange]; rfl, hwritten, hkeeps⟩

lemma opened (h : Represents path mint start session ledger) (access : Access) (later : Files)
    (hcurrent : later.current = start.current)
    (hwaiting : (ledger.ready || access == .writing) = false →
      Vacant (databasePlace path start) later)
    (hserving : (ledger.ready || access == .writing) = true → (locatorOf path).isFrozen = false ∧
      ParentMade path later ∧ ∃ database : Database,
        Serving (databasePlace path start) database later ∧ database.Holds ledger.documents) :
    Represents path mint start
      { session with
        files := later, handles := session.handles ++ [connectionTo path start access] }
      (ledger.after (.openWith access) .opened) where
  setting := h.setting
  current := hcurrent
  handles := by simp [Ledger.after, h.handles]
  waiting hready := by
    obtain ⟨hnot, haccess⟩ := Bool.or_eq_false_iff.mp hready
    obtain ⟨-, hnone, hreading⟩ := h.waiting hnot
    refine ⟨hwaiting hready, hnone, fun other ho => ?_⟩
    rcases List.mem_append.mp ho with ho | ho
    · exact hreading other ho
    · obtain rfl := List.mem_singleton.mp ho
      cases other with
      | reading => rfl
      | writing => cases haccess
  serving hready := hserving hready
  minted := h.minted
  distinct := h.distinct

lemma step_openWith_ready (h : Represents path mint start session ledger)
    (hready : ledger.ready = true) (access : Access) :
    let result := session.step path mint (.openWith access)
    Represents path mint start result.1 (ledger.after (.openWith access) result.2) ∧
      ledger.Allows (.openWith access) result.2 := by
  obtain ⟨hfrozen, hparent, database, hserving, -⟩ := h.serving hready
  rw [← databasePlace_current h.current path] at hserving
  have hopen : ∃ later, Tidied (databasePlace path start) session.files later ∧
      ((∃ e, Connection.openWith access path session.files = (later, .error e)) ∨
        Connection.openWith access path session.files =
          (later, .ok (connectionTo path start access))) := by
    rw [← databasePlace_current h.current path, ← connectionTo_current h.current path]
    cases access with
    | writing => exact Connection.openWritable_serving h.setting.onDisk hfrozen hparent hserving
    | reading =>
      exact ⟨session.files, Tidied.refl _ _,
        Connection.openReadable_serving h.setting.onDisk hserving⟩
  obtain ⟨later, htidied, ⟨e, hopen⟩ | hopen⟩ := hopen
  · simp only [Session.step, hopen]
    exact ⟨h.tidied later htidied, Or.inr ⟨e, rfl⟩⟩
  · have hlater := h.tidied later htidied
    simp only [Session.step, hopen]
    exact ⟨h.opened access later hlater.current (by simp [hready]) fun _ => hlater.serving hready,
      Or.inl rfl⟩

lemma step_openWith_waiting (h : Represents path mint start session ledger)
    (hwaiting : ledger.ready = false) (access : Access) :
    let result := session.step path mint (.openWith access)
    Represents path mint start result.1 (ledger.after (.openWith access) result.2) ∧
      ledger.Allows (.openWith access) result.2 := by
  obtain ⟨hvacant, hnone, -⟩ := h.waiting hwaiting
  have hstill : ∀ later : Files, Vacant (databasePlace path start) later →
      later.current = session.files.current →
        Represents path mint start { session with files := later } ledger :=
    fun later hv hcurrent =>
      { h with
        current := hcurrent.trans h.current
        waiting := fun hw => ⟨hv, (h.waiting hw).2⟩
        serving := fun hready => absurd (hwaiting.symm.trans hready) (by simp) }
  rw [← databasePlace_current h.current path] at hvacant hstill
  cases access with
  | writing =>
    rcases Connection.openWritable_vacant h.setting.onDisk hvacant with
      ⟨later, e, hopen, hv, hcurrent⟩ | ⟨later, hopen, hfrozen, hserving, hparent, hcurrent⟩
    · simp only [Session.step, Connection.openWith, hopen]
      exact ⟨hstill later hv hcurrent, Or.inr ⟨e, rfl⟩⟩
    · rw [connectionTo_current h.current] at hopen
      rw [databasePlace_current h.current] at hserving
      simp only [Session.step, Connection.openWith, hopen]
      refine ⟨h.opened .writing later (hcurrent.trans h.current) (by simp) ?_, Or.inl rfl⟩
      exact fun _ => ⟨hfrozen, hparent, {}, hserving, hnone ▸ Database.holds_nil⟩
  | reading =>
    obtain ⟨later, hv, hcurrent, ⟨e, hopen⟩ | hopen⟩ :=
      Connection.openReadable_vacant h.setting.onDisk hvacant
    · simp only [Session.step, Connection.openWith, hopen]
      exact ⟨hstill later hv hcurrent, Or.inr ⟨e, rfl⟩⟩
    · rw [connectionTo_current h.current] at hopen
      rw [databasePlace_current h.current] at hv
      simp only [Session.step, Connection.openWith, hopen]
      refine ⟨h.opened .reading later (hcurrent.trans h.current) (fun _ => hv) fun hready => ?_,
        Or.inl rfl⟩
      simp [hwaiting] at hready

lemma get?_fresh (h : Represents path mint start session ledger) :
    Entries.get? (mint session.minted).1 ledger.documents = none := by
  by_contra hsome
  obtain ⟨document, hget⟩ := Option.ne_none_iff_exists'.mp hsome
  obtain ⟨n, hn, hid⟩ := h.minted _ (Entries.mem_of_get? _ _ document hget)
  have := h.setting.fresh _ _ hid
  omega

lemma mint_next (h : Represents path mint start session ledger) :
    Represents path mint start { session with minted := session.minted + 1 } ledger where
  setting := h.setting
  current := h.current
  handles := h.handles
  waiting := h.waiting
  serving := h.serving
  minted entry he := by
    obtain ⟨n, hn, hid⟩ := h.minted entry he
    exact ⟨n, by simp only; omega, hid⟩
  distinct := h.distinct

lemma step_insert (h : Represents path mint start session ledger) (handle : ℕ)
    (document : Json) :
    let result := session.step path mint (.insert handle document)
    Represents path mint start result.1 (ledger.after (.insert handle document) result.2) ∧
      ledger.Allows (.insert handle document) result.2 := by
  have hnext := h.mint_next
  have hnew := h.get?_fresh
  simp only [Session.step, Connection.insert, Ledger.Allows, Ledger.Changes]
  cases hhandle : ledger.handles[handle]? with
  | none =>
    have hnone : session.handles[handle]? = none := by simp [h.getElem?_handles, hhandle]
    simp only [Session.withHandle, hnone]
    exact ⟨hnext, trivial⟩
  | some access =>
    cases access with
    | reading =>
      rw [hnext.change_reading handle _ _ hhandle]
      exact ⟨hnext, rfl⟩
    | writing =>
      obtain ⟨database, hholds, herror, hok⟩ := hnext.change_writing handle
        (fun database =>
          (database.insert (mint session.minted).1 (mint session.minted).2 document).map
            fun extended => ((), extended))
        (fun () => Answer.inserted (mint session.minted).1) hhandle
      cases hprovider : Provider.ofDocument document with
      | error e =>
        have hrefused := Database.insert_refused database (mint session.minted).1
          (mint session.minted).2 document e hprovider
        obtain ⟨later, hresult, hlater⟩ := herror e (by rw [hrefused]; rfl)
        rw [hresult]
        exact ⟨hlater, rfl⟩
      | ok provider =>
        obtain ⟨extended, hinsert, hextended⟩ := Database.insert_holds hholds
          (mint session.minted).1 (mint session.minted).2 document provider hprovider
        obtain ⟨later, hresult, hserving, hkeeps⟩ := hok () extended (by rw [hinsert]; rfl)
        rw [hresult]
        refine ⟨hnext.written (h.ready_of_writing handle hhandle) later extended _ hserving hkeeps
          hextended ?_ ?_, _, hnew, rfl⟩
        · intro entry he
          rcases List.mem_append.mp he with he | he
          · exact hnext.minted entry he
          · obtain rfl := List.mem_singleton.mp he
            exact ⟨session.minted, Nat.lt_succ_self _, rfl⟩
        · exact Entries.nodup_keys_append _ _ _ h.distinct hnew

lemma step_erase (h : Represents path mint start session ledger) (handle : ℕ) (id : String) :
    let result := session.step path mint (.erase handle id)
    Represents path mint start result.1 (ledger.after (.erase handle id) result.2) ∧
      ledger.Allows (.erase handle id) result.2 := by
  simp only [Session.step, Connection.erase, Ledger.Allows, Ledger.Changes]
  cases hhandle : ledger.handles[handle]? with
  | none =>
    have hnone : session.handles[handle]? = none := by simp [h.getElem?_handles, hhandle]
    simp only [Session.withHandle, hnone]
    exact ⟨h, trivial⟩
  | some access =>
    cases access with
    | reading =>
      rw [h.change_reading handle _ _ hhandle]
      exact ⟨h, rfl⟩
    | writing =>
      obtain ⟨database, hholds, -, hok⟩ := h.change_writing handle
        (fun database => .ok ((database.row? id).isSome, database.erase id)) Answer.erased hhandle
      obtain ⟨later, hresult, hserving, hkeeps⟩ := hok _ _ rfl
      rw [hresult, Database.row?_holds hholds]
      refine ⟨h.written (h.ready_of_writing handle hhandle) later _ _ hserving hkeeps
        (Database.erase_holds hholds id) (fun entry he => ?_) ?_, rfl⟩
      · exact h.minted entry (List.mem_filter.mp he).1
      · exact Entries.nodup_keys_erase _ id h.distinct

lemma step (h : Represents path mint start session ledger) (request : Request) :
    let result := session.step path mint request
    Represents path mint start result.1 (ledger.after request result.2) ∧
      ledger.Allows request result.2 := by
  cases request with
  | openWith access =>
    cases hready : ledger.ready with
    | true => exact h.step_openWith_ready hready access
    | false => exact h.step_openWith_waiting hready access
  | insert handle document => exact h.step_insert handle document
  | erase handle id => exact h.step_erase handle id
  | get handle id =>
    obtain ⟨hlater, hanswers⟩ := h.ask handle (fun database => database.get? id) Answer.found
    refine ⟨hlater, ?_⟩
    simp only [Ledger.Allows]
    refine Ledger.Answers.imp hanswers ?_
    rintro _ ⟨database, hholds, rfl⟩ hstorable
    rw [Database.get?_holds hholds id hstorable]
    rfl
  | list handle => exact h.ask handle (fun database => .ok database.list) Answer.listed
  | search handle filter =>
    exact h.ask handle (fun database => database.search filter) Answer.searched

end Represents

lemma Reachable.represents (h : Reachable path mint start session ledger) :
    Represents path mint start session ledger := by
  induction h with
  | start setting => exact represents_start setting
  | step _ request ih => exact (ih.step request).1

/-- In every run that starts without a database, every answer is what the ledger allows. -/
theorem answer_allowed (h : Reachable path mint start session ledger) (request : Request) :
    ledger.Allows request (session.step path mint request).2 ∧
      (Entries.keys ledger.documents).Nodup :=
  ⟨(h.represents.step request).2, h.represents.distinct⟩

section Samples

def sampleMint (n : ℕ) : String × String :=
  (String.ofList (List.replicate (n + 1) 'i'), String.ofList (List.replicate n 't'))

lemma sampleMint_inj (m n : ℕ) (h : (sampleMint m).1 = (sampleMint n).1) : m = n := by
  simpa [sampleMint] using congrArg String.length h

def samplePath : String := "/hub.db"

def sampleRun (requests : List Request) : Session × Ledger :=
  run samplePath sampleMint (⟨{}, [], 0⟩, {}) requests

def sampleDocument : Json :=
  .object [("name", .string "press")]

lemma onDisk_sample : OnDisk samplePath := ⟨by decide, by decide⟩

lemma setting_sample : Setting samplePath sampleMint {} where
  onDisk := onDisk_sample
  vacant database h := by
    have hnone : ({} : Files).node? (databasePlace samplePath {}) = none := by decide
    cases hnone.symm.trans h
  fresh := sampleMint_inj

lemma storable_sample : sampleDocument.Storable :=
  Json.storable_of_readable _ (by decide) (by simp [sampleDocument, Json.maxDepth, Json.Readable,
    Json.MembersReadable])

lemma reachable_sample (requests : List Request) :
    Reachable samplePath sampleMint {} (sampleRun requests).1 (sampleRun requests).2 :=
  reachable_run (.start setting_sample) requests

theorem answer_allowed_sample :
    let state := sampleRun [.openWith .writing, .insert 0 sampleDocument, .insert 0 .null,
      .insert 0 sampleDocument, .openWith .reading, .erase 1 "i", .erase 0 "i"]
    state.2.documents = [("iii", sampleDocument)] ∧
      state.2.Allows (.get 1 "iii") (state.1.step samplePath sampleMint (.get 1 "iii")).2 ∧
      (Entries.keys state.2.documents).Nodup :=
  ⟨rfl, answer_allowed (reachable_sample _) (.get 1 "iii")⟩

def blockedFiles : Files :=
  { nodes := [(["hub.db-journal"], .directory)] }

lemma setting_blocked : Setting samplePath sampleMint blockedFiles where
  onDisk := onDisk_sample
  vacant database h := by
    have hnone : blockedFiles.node? (databasePlace samplePath blockedFiles) = none := by decide
    cases hnone.symm.trans h
  fresh := sampleMint_inj

def blockedRun : Session × Ledger :=
  run samplePath sampleMint (⟨blockedFiles, [], 0⟩, {}) [.openWith .writing, .openWith .reading]

lemma reachable_blockedRun :
    Reachable samplePath sampleMint blockedFiles blockedRun.1 blockedRun.2 :=
  reachable_run (.start setting_blocked) _

theorem get_before_made :
    let state := blockedRun
    blockedFiles.node? (databasePlace samplePath blockedFiles) = none ∧
      Reachable samplePath sampleMint blockedFiles state.1 state.2 ∧
      state.2.documents = [] ∧ state.2.handles = [.reading] ∧
      (state.1.step samplePath sampleMint (.get 0 "x")).2 =
        .refused (.storage (.engine .noTable)) := by
  exact ⟨by decide, reachable_blockedRun, by decide +kernel⟩

end Samples

end ContentHub.Store
