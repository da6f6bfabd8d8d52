import ContentHub.Proofs.Store.Keeping
import Mathlib.Tactic

/-!
Trees that differ only in the database at one place. Nothing but a request that reads this database
tells them apart: what is left beside it is settled alike, opening comes out alike, and a change
that makes related databases of the two fails or succeeds in both.
-/

namespace ContentHub.Store

open Files (KeepsDirectories)

inductive Agree {ε α β : Type} (R : α → β → Prop) : Except ε α → Except ε β → Prop
  | error (e : ε) : Agree R (.error e) (.error e)
  | ok {a : α} {b : β} (h : R a b) : Agree R (.ok a) (.ok b)

structure Exchanged (place : Place) (one other : Database) (files twin : Files) : Prop where
  current : twin.current = files.current
  here : files.node? place = some (.database one)
  there : twin.node? place = some (.database other)
  elsewhere : ∀ p, p ≠ place → twin.node? p = files.node? p

inductive Parallel (place : Place) (one other : Database) {α β : Type} (R : α → β → Prop) :
    Files × α → Files × β → Prop
  | intro {files twin : Files} {a : α} {b : β} (h : Exchanged place one other files twin)
      (hresult : R a b) : Parallel place one other R (files, a) (twin, b)

namespace Exchanged

variable {place : Place} {one other : Database} {files twin : Files}

lemma node_cases (h : Exchanged place one other files twin) (p : Place) :
    twin.node? p = files.node? p ∨
      files.node? p = some (.database one) ∧ twin.node? p = some (.database other) := by
  by_cases hp : p = place
  · exact Or.inr ⟨hp ▸ h.here, hp ▸ h.there⟩
  · exact Or.inl (h.elsewhere p hp)

lemma isBlank (h : Exchanged place one other files twin) (p : Place) :
    isBlank twin p = isBlank files p := by
  rcases h.node_cases p with hsame | ⟨hone, hother⟩
  · rw [Store.isBlank, Store.isBlank, hsame]
  · rw [Store.isBlank, Store.isBlank, hone, hother]

lemma leftover? (h : Exchanged place one other files twin) {p : Place} (hp : p ≠ place) :
    leftover? twin p = leftover? files p := by
  rw [Store.leftover?, Store.leftover?, h.elsewhere p hp]

lemma keepsDirectories (h : Exchanged place one other files twin) :
    KeepsDirectories files twin := by
  refine ⟨h.current, fun p hdirectory => ?_⟩
  rcases h.node_cases p with hsame | ⟨hone, -⟩
  · rw [hsame, hdirectory]
  · cases hdirectory.symm.trans hone

lemma remove (h : Exchanged place one other files twin) {p : Place} (hp : p ≠ place) :
    Exchanged place one other (files.remove p) (twin.remove p) where
  current := h.current
  here := (Files.node?_remove_of_ne p place files hp.symm).trans h.here
  there := (Files.node?_remove_of_ne p place twin hp.symm).trans h.there
  elsewhere q hq := by
    by_cases hsame : q = p
    · subst hsame
      by_cases hroot : q = []
      · simp [Files.node?, hroot]
      · rw [Files.node?_remove_self q twin hroot, Files.node?_remove_self q files hroot]
    · rw [Files.node?_remove_of_ne p q twin hsame, Files.node?_remove_of_ne p q files hsame,
        h.elsewhere q hq]

lemma put (h : Exchanged place one other files twin) (written rewritten : Database) :
    Exchanged place written rewritten (files.put place (.database written))
      (twin.put place (.database rewritten)) where
  current := h.current
  here := Files.node?_put_self _ _ _ (ne_nil_of_database h.here)
  there := Files.node?_put_self _ _ _ (ne_nil_of_database h.here)
  elsewhere q hq := by
    rw [Files.node?_put_of_ne _ _ _ _ hq, Files.node?_put_of_ne _ _ _ _ hq, h.elsewhere q hq]

lemma walk (h : Exchanged place one other files twin) (here : Place) (parts : List String) :
    twin.walk here parts = files.walk here parts := by
  induction parts generalizing here with
  | nil => rfl
  | cons part rest ih =>
    rw [Files.walk, Files.walk]
    rcases h.node_cases here with hsame | ⟨hone, hother⟩
    · simp only [hsame, ih]
    · rw [hone, hother]

lemma contains (h : Exchanged place one other files twin) (path : String) :
    twin.contains path = files.contains path := by
  have hlocate : twin.locate path = files.locate path := by
    simp only [Files.locate, h.walk, h.current]
  rw [Files.contains, Files.contains, Files.find, Files.find, hlocate]
  cases files.locate path with
  | error fault => rfl
  | ok p =>
    simp only [Except.bind]
    rcases h.node_cases p with hsame | ⟨hone, hother⟩
    · rw [hsame]
    · rw [hone, hother]
      rfl

lemma descend (h : Exchanged place one other files twin) (here : Place) (parts : List String) :
    descend twin here parts = descend files here parts := by
  induction parts generalizing here with
  | nil => rfl
  | cons part rest ih => simp only [Store.descend, h.walk, ih]

lemma serving (h : Exchanged place one other files twin) (hserving : Serving place one files) :
    Serving place other twin where
  kept := h.there
  journal := by
    rw [h.elsewhere _ (journalPlace_ne place)]
    exact hserving.journal
  log := by
    rw [h.elsewhere _ (logPlace_ne place)]
    exact hserving.log
  room := hserving.room

lemma settleJournal (h : Exchanged place one other files twin) (frozen : Bool) :
    Agree (Exchanged place one other) (settleJournal frozen place files)
      (settleJournal frozen place twin) := by
  have hremoved := h.remove (journalPlace_ne place)
  simp only [Store.settleJournal, h.leftover? (journalPlace_ne place), h.isBlank]
  split
  · exact .ok h
  · split
    · exact .ok h
    · exact .error _
  · split
    · cases frozen
      · exact .ok hremoved
      · exact .ok h
    · split
      · exact .ok h
      · split
        · exact .error _
        · exact .ok hremoved

lemma settleLog (h : Exchanged place one other files twin) (frozen : Bool) :
    Agree (Exchanged place one other) (settleLog frozen place files)
      (settleLog frozen place twin) := by
  have hremoved := h.remove (logPlace_ne place)
  simp only [Store.settleLog, h.leftover? (logPlace_ne place), h.isBlank]
  split
  · exact .ok h
  · exact .error _
  · split
    · exact .ok h
    · exact .ok hremoved

lemma settle (h : Exchanged place one other files twin) (frozen : Bool) :
    Parallel place one other Eq (settle frozen place files) (settle frozen place twin) := by
  have hjournal := h.settleJournal frozen
  simp only [Store.settle]
  generalize Store.settleJournal frozen place files = made at hjournal ⊢
  generalize Store.settleJournal frozen place twin = madeTwin at hjournal ⊢
  cases hjournal with
  | error fault => exact .intro h rfl
  | ok hmade =>
    have hlog := hmade.settleLog frozen
    simp only
    generalize Store.settleLog frozen place _ = later at hlog ⊢
    generalize Store.settleLog frozen place _ = laterTwin at hlog ⊢
    cases hlog with
    | error fault => exact .intro hmade rfl
    | ok hlater => exact .intro hlater rfl

end Exchanged

namespace Connection

variable {α : Type} {connection : Connection} {one other : Database} {files twin : Files}
  {path : String}

lemma settled_exchanged (h : Exchanged connection.place one other files twin) :
    Parallel connection.place one other Eq (connection.settled files)
      (connection.settled twin) := by
  simp only [settled]
  split
  · exact .intro h rfl
  · exact h.settle connection.frozen

lemma read?_of_node? {database : Database}
    (h : files.node? connection.place = some (.database database)) :
    connection.read? files = .ok (some database) := by
  rw [read?, h]

lemma database_exchanged (h : Exchanged connection.place one other files twin) :
    Parallel connection.place one other
      (Agree fun found foundTwin => found = one ∧ foundTwin = other)
      (connection.database files) (connection.database twin) := by
  have hsettled := settled_exchanged h
  simp only [Connection.database]
  generalize connection.settled files = made at hsettled ⊢
  generalize connection.settled twin = madeTwin at hsettled ⊢
  cases hsettled with
  | @intro made madeTwin result _ hmade hresult =>
    subst hresult
    cases result with
    | error fault => exact .intro hmade (.error _)
    | ok _ =>
      simp only [read?_of_node? hmade.here, read?_of_node? hmade.there]
      exact .intro hmade (.ok ⟨rfl, rfl⟩)

lemma ask_exchanged (connection : Connection)
    (h : Exchanged connection.place one other files twin)
    (question : Database → Except Error α) :
    Parallel connection.place one other
      (fun result resultTwin => resultTwin = result ∨
        result = question one ∧ resultTwin = question other)
      (connection.ask question files) (connection.ask question twin) := by
  have hdatabase := database_exchanged h
  simp only [ask]
  generalize connection.database files = found at hdatabase ⊢
  generalize connection.database twin = foundTwin at hdatabase ⊢
  cases hdatabase with
  | intro hmade hresult =>
    cases hresult with
    | error e => exact .intro hmade (Or.inl rfl)
    | ok hfound =>
      obtain ⟨rfl, rfl⟩ := hfound
      exact .intro hmade (Or.inr ⟨rfl, rfl⟩)

lemma save_exchanged (h : Exchanged connection.place one other files twin)
    (written rewritten : Database) :
    Agree (Exchanged connection.place written rewritten) (connection.save written files)
      (connection.save rewritten twin) := by
  have hroom : hasRoomForJournal connection.place twin =
      hasRoomForJournal connection.place files := by
    rw [hasRoomForJournal, hasRoomForJournal, h.elsewhere _ (journalPlace_ne connection.place)]
  simp only [save, hroom]
  split
  · exact .error _
  · split
    · exact .ok (h.put written rewritten)
    · split
      · exact .ok ((h.remove (journalPlace_ne connection.place)).put written rewritten)
      · exact .error _

lemma change_exchanged (connection : Connection) {S : Database → Database → Prop}
    (h : Exchanged connection.place one other files twin) (hrelated : S one other)
    (edit : Database → Except Error (α × Database))
    (hedit : Agree (fun changed changedTwin => changedTwin.1 = changed.1 ∧
      S changed.2 changedTwin.2) (edit one) (edit other)) :
    ∃ written rewritten, S written rewritten ∧
      Parallel connection.place written rewritten Eq (connection.change edit files)
        (connection.change edit twin) := by
  simp only [change]
  cases connection.checkWritable with
  | error e => exact ⟨one, other, hrelated, .intro h rfl⟩
  | ok _ =>
    have hdatabase := database_exchanged h
    simp only
    generalize connection.database files = found at hdatabase ⊢
    generalize connection.database twin = foundTwin at hdatabase ⊢
    cases hdatabase with
    | @intro made madeTwin _ _ hmade hresult =>
      cases hresult with
      | error e => exact ⟨one, other, hrelated, .intro hmade rfl⟩
      | ok hfound =>
        obtain ⟨rfl, rfl⟩ := hfound
        simp only
        generalize edit _ = changed at hedit ⊢
        generalize edit _ = changedTwin at hedit ⊢
        cases hedit with
        | error e => exact ⟨_, _, hrelated, .intro hmade rfl⟩
        | @ok changed changedTwin hchanged =>
          obtain ⟨hanswer, hwritten⟩ := hchanged
          have hsave := save_exchanged hmade changed.2 changedTwin.2
          simp only [hanswer]
          generalize connection.save changed.2 made = saved at hsave ⊢
          generalize connection.save changedTwin.2 madeTwin = savedTwin at hsave ⊢
          cases hsave with
          | error fault => exact ⟨_, _, hrelated, .intro hmade rfl⟩
          | ok hsaved => exact ⟨_, _, hwritten, .intro hsaved rfl⟩

lemma connect_exchanged (hpath : OnDisk path) (access : Access)
    (h : Exchanged (databasePlace path files) one other files twin) :
    ∃ result, connect access path files = (files, result) ∧
      connect access path twin = (twin, result) := by
  simp only [connect, hpath.notInMemory, Bool.not_false, Bool.true_and, Bool.false_eq_true,
    if_false]
  split
  · exact ⟨_, rfl, rfl⟩
  · cases hlocator : Locator.ofPath path with
    | error code => exact ⟨_, rfl, rfl⟩
    | ok locator =>
      have hname : locatorOf path = locator := by simp [locatorOf, hlocator, Except.toOption]
      have hprivate : locator.isPrivate = false := by rw [← hname, hpath.notPrivate]
      have hplaceTwin : enginePlace? twin locator.name = enginePlace? files locator.name := by
        rw [enginePlace?, enginePlace?, h.descend, h.current]
      simp only [hprivate, Bool.false_eq_true, if_false, attach, hplaceTwin]
      cases hplace : enginePlace? files locator.name with
      | none => exact ⟨_, rfl, rfl⟩
      | some place =>
        have hsame : place = databasePlace path files := by
          rw [databasePlace, hname]
          exact (descend_eq_some files _ place _ hplace).1
        subst hsame
        simp only [h.here, h.there]
        exact ⟨_, rfl, rfl⟩

lemma prepare_exchanged (connection : Connection)
    (h : Exchanged connection.place one other files twin) :
    Parallel connection.place one other Eq (connection.prepare files)
      (connection.prepare twin) := by
  have hsettled := settled_exchanged h
  simp only [prepare]
  generalize connection.settled files = made at hsettled ⊢
  generalize connection.settled twin = madeTwin at hsettled ⊢
  cases hsettled with
  | @intro made madeTwin result _ hmade hresult =>
    subst hresult
    cases result with
    | error fault => exact .intro hmade rfl
    | ok _ =>
      simp only [read?_of_node? hmade.here, read?_of_node? hmade.there]
      exact .intro hmade rfl

lemma connectPrepared_exchanged (hpath : OnDisk path)
    (h : Exchanged (databasePlace path files) one other files twin) :
    Parallel (databasePlace path files) one other Eq (connectPrepared path files)
      (connectPrepared path twin) := by
  obtain ⟨result, hconnect, hconnectTwin⟩ := connect_exchanged hpath .writing h
  simp only [connectPrepared, hconnect, hconnectTwin]
  cases result with
  | error e => exact .intro h rfl
  | ok connection =>
    obtain rfl : connection = connectionTo path files .writing := by
      rcases connect_database hpath .writing h.here with ⟨e, he⟩ | hopened
      · cases he.symm.trans hconnect
      · cases hopened.symm.trans hconnect
        rfl
    have hprepare : Parallel (databasePlace path files) one other Eq
        ((connectionTo path files .writing).prepare files)
        ((connectionTo path files .writing).prepare twin) :=
      prepare_exchanged (connectionTo path files .writing) h
    simp only
    generalize (connectionTo path files .writing).prepare files = made at hprepare ⊢
    generalize (connectionTo path files .writing).prepare twin = madeTwin at hprepare ⊢
    cases hprepare with
    | @intro made madeTwin result _ hmade hresult =>
      subst hresult
      cases result with
      | error fault => exact .intro hmade rfl
      | ok _ => exact .intro hmade rfl

lemma openWith_exchanged (hpath : OnDisk path) (hparent : ParentMade path files) (access : Access)
    (h : Exchanged (databasePlace path files) one other files twin) :
    Parallel (databasePlace path files) one other Eq (openWith access path files)
      (openWith access path twin) := by
  cases access with
  | reading =>
    simp only [openWith, openReadable, h.contains]
    split
    · obtain ⟨result, hconnect, hconnectTwin⟩ := connect_exchanged hpath .reading h
      rw [hconnect, hconnectTwin]
      exact .intro h rfl
    · exact .intro h rfl
  | writing =>
    have hprepared := connectPrepared_exchanged hpath h
    have hparentTwin := hparent.keeps h.keepsDirectories
    simp only [openWith, openWritable]
    cases hp : Files.parent? path with
    | none => exact hprepared
    | some parent =>
      simp only [Option.map_some, Files.makeDirectories_of_isDirectory parent (hparent parent hp),
        Files.makeDirectories_of_isDirectory parent (hparentTwin parent hp)]
      exact hprepared

end Connection

end ContentHub.Store
