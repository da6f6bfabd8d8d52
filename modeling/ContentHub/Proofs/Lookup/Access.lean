import ContentHub.Proofs.Lookup.Provider
import ContentHub.Provider.Password
import Mathlib.Tactic

/-!
Who gets access. Whether a password is right and whether a provider is a super provider is decided
by the one document of that name; several documents of a name, or one that is no provider, are an
error and never a verdict. Changes to documents of other names change nothing.
-/

namespace ContentHub

open Store

def grants (check : PasswordCheck) (name password : String) (found : Option Provider) : Bool :=
  ((found.bind Provider.passwordHash).map fun stored => check name password stored).getD false

def isSuperAmong (found : Option Provider) : Bool :=
  (found.map Provider.isSuper).getD false

namespace Source

lemma ask_isSuper (source : Source) (check : PasswordCheck) (name : String) :
    source.ask check (fun backend => backend.isSuper name) =
      (source.ask check fun backend => backend.findProvider name).map isSuperAmong := by
  cases source <;> rfl

lemma ask_authenticate (source : Source) (check : PasswordCheck) (name password : String) :
    source.ask check (fun backend => backend.authenticate (some name) (some password)) =
      (source.ask check fun backend => backend.findProvider name).map
        (grants check name password) := by
  cases source with
  | memory collection =>
    simp only [ask, Backend.authenticate, bind]
    cases (memoryBackend collection check).findProvider name with
    | error e => rfl
    -- the question goes on only when it is known whether there is a hash
    | ok found => rcases found with _ | ⟨_, _ | _, _, _⟩ <;> rfl
  | disk connection files =>
    simp only [ask, Backend.authenticate, StateT.run_bind]
    cases ((diskBackend connection check).findProvider name).run files with
    | mk result later =>
      cases result with
      | error e => rfl
      | ok found => rcases found with _ | ⟨_, _ | _, _, _⟩ <;> rfl

lemma ask_authenticate_absent (source : Source) (check : PasswordCheck)
    (name password : Option String) (h : name = none ∨ password = none) :
    source.ask check (fun backend => backend.authenticate name password) = .ok false := by
  rcases h with rfl | rfl
  · cases source <;> rfl
  · cases name <;> cases source <;> rfl

end Source

lemma grants_eq_true (check : PasswordCheck) (name password : String) (provider : Provider) :
    grants check name password (some provider) = true ↔
      ∃ stored, provider.passwordHash = some stored ∧ check name password stored = true := by
  cases hhash : provider.passwordHash <;> simp [grants, hhash]

lemma isSuper_eq_true (provider : Provider) :
    provider.isSuper = true ↔ provider.superProvider = some true := by
  cases hsuper : provider.superProvider <;> simp [Provider.isSuper, hsuper]

structure AccessVerdict (check : PasswordCheck) (name : String) (documents : List Json)
    (knows : String → Except Error Bool) (rules : Except Error Bool) : Prop where
  granted : ∀ password, knows password = .ok true ↔ ∃ document provider stored,
    onesNamed name documents = [document] ∧ Provider.ofDocument document = .ok provider ∧
      provider.passwordHash = some stored ∧ check name password stored = true
  super : rules = .ok true ↔ ∃ document provider,
    onesNamed name documents = [document] ∧ Provider.ofDocument document = .ok provider ∧
      provider.superProvider = some true
  several : 2 ≤ (onesNamed name documents).length →
    (∀ password, knows password = .error (.integrity (.duplicateProvider name))) ∧
      rules = .error (.integrity (.duplicateProvider name))
  malformed : ∀ document e, onesNamed name documents = [document] →
    Provider.ofDocument document = .error e →
      (∀ password, knows password = .error e) ∧ rules = .error e ∧ ∃ fault, e = .integrity fault
  decided : (onesNamed name documents = [] ∨ ∃ document provider,
      onesNamed name documents = [document] ∧ Provider.ofDocument document = .ok provider) →
    (∀ password, ∃ verdict, knows password = .ok verdict) ∧ ∃ verdict, rules = .ok verdict

lemma verdict_of_providerAmong (check : PasswordCheck) (name : String) (documents : List Json) :
    AccessVerdict check name documents
      (fun password => (providerAmong name (onesNamed name documents)).map
        (grants check name password))
      ((providerAmong name (onesNamed name documents)).map isSuperAmong) := by
  cases hones : onesNamed name documents with
  | nil =>
    exact {
      granted := by simp [hones, providerAmong, Except.map, grants]
      super := by simp [hones, providerAmong, Except.map, isSuperAmong]
      several := by simp [hones]
      malformed := by simp [hones]
      decided := by simp [providerAmong, Except.map] }
  | cons document rest =>
    cases rest with
    | nil =>
      have hsame : ∀ other, onesNamed name documents = [other] → other = document :=
        fun other ho => by simpa [hones] using ho.symm
      simp only [providerAmong]
      cases hprovider : Provider.ofDocument document with
      | error e =>
        exact {
          granted := by simp [hones, hprovider, Except.map]
          super := by simp [hones, hprovider, Except.map]
          several := by simp [hones]
          malformed := fun other e' ho he => by
            obtain rfl : e = e' := Except.error.inj (hprovider.symm.trans (hsame other ho ▸ he))
            exact ⟨fun _ => rfl, rfl, Provider.ofDocument_error document e hprovider⟩
          decided := by simp [hones, hprovider] }
      | ok provider =>
        exact {
          granted := by simp [hones, hprovider, Except.map, grants_eq_true]
          super := by simp [hones, hprovider, Except.map, isSuperAmong, isSuper_eq_true]
          several := by simp [hones]
          malformed := fun other e ho he => by
            rw [hsame other ho, hprovider] at he
            cases he
          decided := by simp [Except.map] }
    | cons _ _ =>
      exact {
        granted := by simp [hones, providerAmong, Except.map]
        super := by simp [hones, providerAmong, Except.map]
        several := by simp [providerAmong, Except.map]
        malformed := by simp [hones]
        decided := by simp [hones] }

namespace Store

def PassedOver (name : String) (document : Json) : Prop :=
  named name document = false ∧ document.Visible

def Request.Spares (name : String) (ledger : Ledger) : Request → Prop
  | .insert _ document => PassedOver name document
  | .erase _ id => ∀ document, (id, document) ∈ ledger.documents → PassedOver name document
  | _ => False

namespace Database

variable {rows : List Row} {filter : Filter} {path : List Char} {database : Database}
  {documents : Entries Json}

lemma select_filter_of_skipped (keep : Row → Bool)
    (h : ∀ row ∈ rows, keep row = false → row.satisfies path filter = .ok false) :
    select path filter (rows.filter keep) = select path filter rows := by
  induction rows with
  | nil => rfl
  | cons row rest ih =>
    obtain ⟨hrow, hrest⟩ := List.forall_mem_cons.mp h
    have hkept := ih hrest
    cases hkeep : keep row with
    | true => rw [List.filter_cons_of_pos hkeep, select, select, hkept]
    | false =>
      have hskipped : select path filter (row :: rest) = select path filter rest := by
        rw [select, hrow hkeep]
        cases select path filter rest <;> rfl
      rw [List.filter_cons_of_neg (by simp [hkeep]), hkept, hskipped]

lemma select_append_of_skipped {row : Row} (h : row.satisfies path filter = .ok false) :
    select path filter (rows ++ [row]) = select path filter rows := by
  induction rows with
  | nil =>
    rw [List.nil_append, select, select, h]
    rfl
  | cons other rest ih => rw [List.cons_append, select, select, ih]

lemma search_congr {other : Database} (hquote : filter.path.quoting = false)
    (h : select ('$' :: filter.path.flatMap quotedLabel) filter other.rows =
      select ('$' :: filter.path.flatMap quotedLabel) filter database.rows) :
    other.search filter = database.search filter := by
  simp only [search, pathText?_eq, hquote, Bool.false_eq_true, if_false, h]

lemma skips_row {row : Row} {id name : String} {document : Json} (hrow : row.Holds (id, document))
    (h : PassedOver name document) :
    row.satisfies ('$' :: (Lookup.nameFilter name).path.flatMap quotedLabel)
      (Lookup.nameFilter name) = .ok false := by
  obtain ⟨provider, hprovider, -⟩ := hrow.named
  have hplain := plain_nameFilter name
  have hfinds : (Lookup.nameFilter name).accepts
      (resolveSpelled (Lookup.nameFilter name).path document) = named name document := by
    rw [← finds_nameFilter name document provider hprovider h.2.normal, ← reaches_of_plain hplain]
    simp [Filter.reaches, quoting_nameFilter]
  rw [hrow.satisfies h.2 _ hplain.whole (quoting_nameFilter name), hfinds, h.1]

lemma search_insert {name id stamp : String} {document : Json} {extended : Database}
    (hinsert : database.insert id stamp document = .ok extended) (h : PassedOver name document) :
    extended.search (Lookup.nameFilter name) = database.search (Lookup.nameFilter name) := by
  obtain ⟨provider, hprovider, rfl⟩ := (map_eq_ok _ _ _).mp hinsert
  have hrow : (⟨id, provider.name, document.print, stamp⟩ : Row).Holds (id, document) :=
    ⟨rfl, rfl, provider, hprovider, rfl⟩
  exact search_congr (quoting_nameFilter name) (select_append_of_skipped (skips_row hrow h))

lemma search_erase {name id : String} (hholds : database.Holds documents)
    (h : ∀ document, (id, document) ∈ documents → PassedOver name document) :
    (database.erase id).search (Lookup.nameFilter name) =
      database.search (Lookup.nameFilter name) := by
  apply search_congr (quoting_nameFilter name)
  apply select_filter_of_skipped
  intro row hrow hid
  obtain ⟨entry, hentry, hrowHolds⟩ := (rows_entries hholds).1 row hrow
  have hsame : entry.1 = id := by simpa [← hrowHolds.id] using hid
  exact skips_row hrowHolds (h entry.2 (hsame ▸ hentry))

end Database

variable {path : String} {mint : ℕ → String × String} {start : Files} {session : Session}
  {ledger : Ledger} {request : Request} {name : String}

lemma Reachable.search_rowsAt (h : Reachable path mint start session ledger)
    (hready : ledger.ready = true) (access : Access) (filter : Filter) :
    ((connectionTo path start access).search filter session.files).2 =
      Database.search filter ⟨rowsAt (databasePlace path start) session.files⟩ := by
  obtain ⟨database, hserving, -⟩ := h.database hready
  obtain ⟨later, hask, -⟩ := Connection.ask_serving (connectionTo path start access)
    (fun database => database.search filter) (h.represents.serving hready).1 hserving
  rw [Connection.search, hask, rowsAt_of_node? hserving.kept]

lemma Reachable.search_spared (h : Reachable path mint start session ledger)
    (hready : ledger.ready = true) (hspares : request.Spares name ledger) :
    Database.search (Lookup.nameFilter name)
        ⟨rowsAt (databasePlace path start) (session.step path mint request).1.files⟩ =
      Database.search (Lookup.nameFilter name)
        ⟨rowsAt (databasePlace path start) session.files⟩ := by
  have hrepresents := h.represents
  cases request with
  | insert handle document =>
    simp only [Session.step, Connection.insert]
    rcases hrepresents.mint_next.rowsAt_change handle _ _ with hsame |
      ⟨database, x, written, hedit, hbefore, hafter⟩
    · rw [hsame]
    · obtain ⟨extended, hinsert, hwritten⟩ := (map_eq_ok _ _ _).mp hedit
      obtain ⟨-, rfl⟩ := Prod.mk.inj hwritten
      rw [hafter, hbefore]
      exact Database.search_insert hinsert hspares
  | erase handle id =>
    simp only [Session.step, Connection.erase]
    rcases hrepresents.rowsAt_change handle _ _ with hsame |
      ⟨database, x, written, hedit, hbefore, hafter⟩
    · rw [hsame]
    · obtain ⟨-, rfl⟩ := Prod.mk.inj (Except.ok.inj hedit)
      obtain ⟨held, hserving, hholds, -⟩ := h.database hready
      rw [rowsAt_of_node? hserving.kept] at hbefore
      rw [hafter, rowsAt_of_node? hserving.kept, Database.erase, ← hbefore]
      exact Database.search_erase hholds hspares
  | openWith | get | list | search => exact hspares.elim

lemma ready_of_spares (h : request.Spares name ledger) (answer : Answer) :
    (ledger.after request answer).ready = ledger.ready := by
  cases request with
  | insert handle document => cases answer <;> rfl
  | erase handle id => cases answer <;> rfl
  | openWith | get | list | search => exact h.elim

lemma files_of_spares (h : Reachable path mint start session ledger)
    (hwaiting : ledger.ready = false) (hspares : request.Spares name ledger) :
    (session.step path mint request).1.files = session.files := by
  cases request with
  | insert handle document =>
    simp only [Session.step, Connection.insert]
    rw [h.represents.mint_next.change_waiting hwaiting]
  | erase handle id =>
    simp only [Session.step, Connection.erase]
    rw [h.represents.change_waiting hwaiting]
  | openWith | get | list | search => exact hspares.elim

end Store

inductive Spared (name : String) : Source → Source → Prop
  | memory (collection : Collection) (document : Json) (hother : named name document = false) :
      Spared name (.memory collection) (.memory (collection.insert document).2)
  | disk {path : String} {mint : ℕ → String × String} {start : Files} {session : Session}
      {ledger : Ledger} {connection : Connection} (h : Reachable path mint start session ledger)
      (handle : ℕ) (hhandle : session.handles[handle]? = some connection) (request : Request)
      (hother : request.Spares name ledger) :
      Spared name (.disk connection session.files)
        (.disk connection (session.step path mint request).1.files)

lemma findProvider_spared {name : String} {before after : Source} (h : Spared name before after)
    (check : PasswordCheck) :
    after.ask check (fun backend => backend.findProvider name) =
      before.ask check fun backend => backend.findProvider name := by
  cases h with
  | memory collection document hother =>
    rw [findProvider_stocked (.memory _) check, findProvider_stocked (.memory _) check]
    simp [Collection.insert, onesNamed, hother]
  | @disk path mint start session ledger connection h handle hhandle request hother =>
    -- nothing can be changed before the database is made; later the changed row is passed over
    cases hready : ledger.ready with
    | false => rw [files_of_spares h hready hother]
    | true =>
      obtain ⟨access, -, rfl⟩ := h.represents.connection_of_handle hhandle
      have hlater := (ready_of_spares hother (session.step path mint request).2).trans hready
      have hsearch := h.search_spared hready hother
      rw [Source.ask_findProvider, Source.ask_findProvider]
      simp only [Source.search, h.search_rowsAt hready, (h.step request).search_rowsAt hlater,
        hsearch]

lemma check_iff (name password stored : String) :
    Password.check name password stored = true ↔
      Text.lower (Text.trim stored) = Text.lower (Password.hash name password) := by
  simp only [Password.check, Text.sameLetters, beq_iff_eq]
  exact eq_comm

/-- The one document of a name decides about access, and without exactly one nobody gets it. No
change to other documents counts, and neither does their order, unless the engine does not see
them. -/
theorem access_verdict (check : PasswordCheck) (source : Source) (name : String) :
    let knows := fun (source : Source) password => source.ask check fun backend =>
      backend.authenticate (some name) (some password)
    let rules := fun (source : Source) => source.ask check fun backend => backend.isSuper name
    (∀ documents, StockedFor name source documents →
      AccessVerdict check name documents (knows source) (rules source) ∧
        ∀ other others, StockedFor name other others →
          (onesNamed name documents).Perm (onesNamed name others) →
            knows other = knows source ∧ rules other = rules source) ∧
      (Unmade source → source.reads ∧ ∃ fault,
        (∀ password, knows source password = .error (.storage (.engine fault))) ∧
          rules source = .error (.storage (.engine fault))) ∧
      (Unseen source →
        (∀ password, knows source password = .error (.storage (.engine .malformedText))) ∧
          rules source = .error (.storage (.engine .malformedText))) ∧
      (∀ stored, UnreadFor name source stored → ∃ entry ∈ stored, Unread name entry ∧
        (∀ password, knows source password = .error (.storage (.unreadable entry.1))) ∧
          rules source = .error (.storage (.unreadable entry.1))) ∧
      (∀ first second : Option String, first = none ∨ second = none →
        (source.ask check fun backend => backend.authenticate first second) = .ok false) ∧
      (∀ before after, Spared name before after →
        knows after = knows before ∧ rules after = rules before) ∧
      ∀ password stored, Password.check name password stored = true ↔
        Text.lower (Text.trim stored) = Text.lower (Password.hash name password) := by
  simp only [Source.ask_authenticate, Source.ask_isSuper]
  refine ⟨fun documents h => ⟨?_, fun other others ho hperm => ?_⟩,
    fun h => ⟨reads_of_unmade h, ?_⟩, fun h => ?_, fun stored h => ?_,
    source.ask_authenticate_absent check, fun before after h => ?_, check_iff name⟩
  · rw [findProvider_stockedFor h check]
    exact verdict_of_providerAmong check name documents
  · simp only [findProvider_stockedFor h check, findProvider_stockedFor ho check,
      providerAmong_perm name _ _ hperm, and_self]
  · obtain ⟨fault, hfind⟩ := findProvider_unmade h check name
    rw [hfind]
    exact ⟨fault, fun _ => rfl, rfl⟩
  · rw [findProvider_unseen h check name]
    exact ⟨fun _ => rfl, rfl⟩
  · obtain ⟨entry, hentry, hunread, hfind⟩ := findProvider_unread h check
    rw [hfind]
    exact ⟨entry, hentry, hunread, fun _ => rfl, rfl⟩
  · simp only [findProvider_spared h check, and_self]

section Samples

def superDocument : Json :=
  .object [("name", .string "press"), ("pwd_hash", .string "key"), ("super_provider", .bool true)]

def sameText : PasswordCheck :=
  fun _ password stored => password == stored

def plainRun : Session × Ledger :=
  sampleRun [.openWith .writing, .insert 0 sampleDocument]

lemma reachable_plainRun : Reachable samplePath sampleMint {} plainRun.1 plainRun.2 :=
  reachable_sample _

lemma spared_layeredRun : Spared "press" (.disk writingConnection plainRun.1.files)
    (.disk writingConnection layeredRun.1.files) := by
  have hpassed : PassedOver "press" (deepDocument "daily" 999) :=
    ⟨by decide, visible_deepDocument "daily" 999 (by decide) (by decide)⟩
  exact .disk reachable_plainRun 0 rfl (.insert 0 (deepDocument "daily" 999))
    hpassed

theorem access_verdict_sample :
    ((Source.memory ⟨[nestedDocument, superDocument]⟩).ask sameText fun backend =>
        backend.authenticate (some "press") (some "key")) = .ok true ∧
      ((Source.memory ⟨[superDocument, sampleDocument]⟩).ask sameText fun backend =>
        backend.isSuper "press") = .error (.integrity (.duplicateProvider "press")) ∧
      ((Source.disk writingConnection layeredRun.1.files).ask sameText fun backend =>
        backend.isSuper "press") ≠ .ok true ∧
      ((Source.disk writingConnection layeredRun.1.files).ask sameText fun backend =>
        backend.isSuper "press") =
      ((Source.disk writingConnection plainRun.1.files).ask sameText fun backend =>
        backend.isSuper "press") := by
  refine ⟨?_, ?_, ?_, ?_⟩
  · have hverdict := ((access_verdict sameText (.memory ⟨[nestedDocument, superDocument]⟩)
      "press").1 _ (.memory _)).1
    exact (hverdict.granted "key").mpr
      ⟨superDocument, ⟨"press", some "key", some true, []⟩, "key", by decide, by decide, rfl, rfl⟩
  · have hverdict := ((access_verdict sameText (.memory ⟨[superDocument, sampleDocument]⟩)
      "press").1 _ (.memory _)).1
    exact (hverdict.several (by decide)).2
  · have hverdict := ((access_verdict sameText (.disk writingConnection layeredRun.1.files)
      "press").1 _ stockedFor_layeredRun).1
    have hones : onesNamed "press" [sampleDocument, deepDocument "daily" 999] =
        [sampleDocument] := by decide
    rw [ne_eq, hverdict.super, hones]
    rintro ⟨document, provider, hone, haccepted, hsuper⟩
    obtain rfl : sampleDocument = document := List.head_eq_of_cons_eq hone
    obtain rfl : (⟨"press", none, none, []⟩ : Provider) = provider :=
      Except.ok.inj ((by decide : Provider.ofDocument sampleDocument = .ok _).symm.trans haccepted)
    cases hsuper
  · obtain ⟨-, -, -, -, -, hspared, -⟩ :=
      access_verdict sameText (.disk writingConnection layeredRun.1.files) "press"
    exact (hspared _ _ spared_layeredRun).2

/-- What the storage answers before the database is made, after a document of another name that
nests too deep for the engine came to one of the name, and if this one nests too deep itself. -/
theorem access_obstructed :
    (Held sampleConnection blockedRun.1 blockedRun.2 ∧ blockedRun.2.documents = [] ∧
      ((Source.disk sampleConnection blockedRun.1.files).ask sameText fun backend =>
        backend.isSuper "press") = .error (.storage (.engine .noTable)) ∧
      ((Source.disk sampleConnection blockedRun.1.files).ask sameText fun backend =>
        backend.authenticate (some "press") (some "key")) = .error (.storage (.engine .noTable))) ∧
    (buriedRun.1 =
        (plainRun.1.step samplePath sampleMint (.insert 0 (deepDocument "daily" 1000))).1 ∧
      Held writingConnection plainRun.1 plainRun.2 ∧
      ((Source.disk writingConnection plainRun.1.files).ask sameText fun backend =>
        backend.isSuper "press") = .ok false ∧
      ((Source.disk writingConnection buriedRun.1.files).ask sameText fun backend =>
        backend.isSuper "press") = .error (.storage (.engine .malformedText))) ∧
    Held writingConnection deepRun.1 deepRun.2 ∧
      onesNamed "press" (deepRun.2.documents.map Prod.snd) = [deepDocument "press" 127] ∧
      ((Source.disk writingConnection deepRun.1.files).ask sameText fun backend =>
        backend.isSuper "press") = .error (.storage (.unreadable "i")) := by
  refine ⟨⟨held_blockedRun, rfl, rfl, rfl⟩,
    ⟨rfl, .intro reachable_plainRun 0 (by decide +kernel), by decide +kernel, ?_⟩,
    held_deepRun, ?_, ?_⟩
  · rw [Source.ask_isSuper, findProvider_unseen unseen_buriedRun]
    rfl
  · rw [documents_deepRun]
    rfl
  · obtain ⟨entry, hentry, -, hanswer⟩ := findProvider_unread unreadFor_deepRun sameText
    rw [List.mem_singleton.mp hentry] at hanswer
    rw [Source.ask_isSuper, hanswer]
    rfl

end Samples

end ContentHub
