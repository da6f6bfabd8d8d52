import ContentHub.Proofs.Files.Following
import ContentHub.Proofs.Store.Opening
import Mathlib.Tactic

namespace ContentHub.Store

open Files (KeepsDirectories Grown)

structure Undisturbed (place : Place) (files later : Files) : Prop where
  keeps : KeepsDirectories files later
  kept : later.node? place = files.node? place

variable {place : Place} {files later made : Files}

lemma Undisturbed.refl (place : Place) (files : Files) : Undisturbed place files files :=
  ⟨⟨rfl, fun _ h => h⟩, rfl⟩

lemma Undisturbed.trans (h : Undisturbed place files made) (hl : Undisturbed place made later) :
    Undisturbed place files later :=
  ⟨h.keeps.trans hl.keeps, hl.kept.trans h.kept⟩

lemma Tidied.undisturbed (h : Tidied place files later) : Undisturbed place files later :=
  ⟨h.keeps, h.kept⟩

lemma undisturbed_of_grown (h : Grown files later) (hplace : files.node? place ≠ none) :
    Undisturbed place files later := by
  refine ⟨h.keepsDirectories, ?_⟩
  rcases h.nodes place with hsame | ⟨hnone, -⟩
  · exact hsame
  · exact absurd hnone hplace

lemma undisturbed_writeText {file content : String}
    (h : files.writeText file content = .ok later) (hne : files.placeOf file ≠ place) :
    Undisturbed place files later := by
  simp only [Files.writeText] at h
  cases hlocate : files.locate file with
  | error fault =>
    rw [hlocate] at h
    cases h
  | ok target =>
    rw [Files.placeOf_of_locate hlocate] at hne
    simp only [hlocate, Except.bind] at h
    split at h
    · cases h
    · next hfile =>
      split at h
      · obtain rfl := Except.ok.inj h
        exact ⟨keepsDirectories_put _ _ hfile, Files.node?_put_of_ne _ _ _ _ hne.symm⟩
      · cases h
      · cases h

lemma ne_nil_of_database {database : Database} (h : files.node? place = some (.database database)) :
    place ≠ [] := by
  rintro rfl
  simp [Files.node?] at h

namespace Connection

variable {α : Type} {connection : Connection} {database : Database} {access : Access}
  {path : String}

lemma read?_eq_some (h : connection.read? files = .ok (some database)) :
    files.node? connection.place = some (.database database) := by
  rw [read?] at h
  split at h
  · next hfound =>
    obtain rfl := Option.some.inj (Except.ok.inj h)
    exact hfound
  · split at h
    · cases Except.ok.inj h
    · cases h

lemma database_cases (connection : Connection) (files : Files) :
    ∃ later, Tidied connection.place files later ∧
      ((∃ fault, connection.database files = (later, .error (.storage (.engine fault)))) ∨
        ∃ database, connection.database files = (later, .ok database) ∧
          files.node? connection.place = some (.database database)) := by
  have htidied := settled_tidied connection files
  simp only [Connection.database]
  cases hsettled : connection.settled files with
  | mk made result =>
    rw [hsettled] at htidied
    refine ⟨made, htidied, ?_⟩
    cases result with
    | error fault => exact Or.inl ⟨fault, rfl⟩
    | ok _ =>
      simp only
      cases hread : connection.read? made with
      | error fault => exact Or.inl ⟨fault, rfl⟩
      | ok found =>
        cases found with
        | none => exact Or.inl ⟨.noTable, rfl⟩
        | some database =>
          rw [← htidied.kept]
          exact Or.inr ⟨database, rfl, read?_eq_some hread⟩

lemma ask_cases (connection : Connection) (question : Database → Except Error α) (files : Files) :
    ∃ later, Tidied connection.place files later ∧
      ((∃ fault, connection.ask question files = (later, .error (.storage (.engine fault)))) ∨
        ∃ database, connection.ask question files = (later, question database) ∧
          files.node? connection.place = some (.database database)) := by
  obtain ⟨later, htidied, ⟨fault, h⟩ | ⟨database, h, hdatabase⟩⟩ := database_cases connection files
  · exact ⟨later, htidied, Or.inl ⟨fault, by simp [ask, h]⟩⟩
  · exact ⟨later, htidied, Or.inr ⟨database, by simp [ask, h], hdatabase⟩⟩

lemma save_eq_ok {written : Database} (h : connection.save written files = .ok later)
    (hdatabase : files.node? connection.place = some (.database database)) :
    later.node? connection.place = some (.database written) ∧ KeepsDirectories files later := by
  have hplace := ne_nil_of_database hdatabase
  have hfile : files.node? connection.place ≠ some .directory := by simp [hdatabase]
  obtain ⟨-, ⟨-, rfl⟩ | ⟨-, -, hjournal, rfl⟩⟩ := save_cases h
  · exact ⟨Files.node?_put_self _ _ _ hplace, keepsDirectories_put _ _ hfile⟩
  · have hremoved := tidied_remove connection.place _ files (journalPlace_ne _) hjournal
    refine ⟨Files.node?_put_self _ _ _ hplace, ?_⟩
    apply hremoved.keeps.trans
    apply keepsDirectories_put
    rwa [hremoved.kept]

lemma change_cases (connection : Connection) (edit : Database → Except Error (α × Database))
    (files : Files) :
    (∃ later e, connection.change edit files = (later, .error e) ∧
        Tidied connection.place files later ∧
        ((∃ fault, e = .storage fault) ∨ ∃ database, edit database = .error e)) ∨
      ∃ later database answer written, connection.change edit files = (later, .ok answer) ∧
        connection.access = .writing ∧
        files.node? connection.place = some (.database database) ∧
        edit database = .ok (answer, written) ∧
        later.node? connection.place = some (.database written) ∧
        KeepsDirectories files later := by
  cases haccess : connection.access with
  | reading =>
    have hreading := change_reading connection edit files haccess
    exact Or.inl ⟨files, _, hreading, Tidied.refl _ files, Or.inl ⟨_, rfl⟩⟩
  | writing =>
    obtain ⟨made, htidied, ⟨fault, h⟩ | ⟨database, h, hdatabase⟩⟩ :=
      database_cases connection files
    · refine Or.inl ⟨made, .storage (.engine fault), ?_, htidied, Or.inl ⟨_, rfl⟩⟩
      simp [change, checkWritable, haccess, h]
    · cases hedit : edit database with
      | error e =>
        refine Or.inl ⟨made, e, ?_, htidied, Or.inr ⟨database, hedit⟩⟩
        simp [change, checkWritable, haccess, h, hedit]
      | ok changed =>
        obtain ⟨answer, written⟩ := changed
        cases hsave : connection.save written made with
        | error fault =>
          refine Or.inl ⟨made, .storage (.engine fault), ?_, htidied, Or.inl ⟨_, rfl⟩⟩
          simp [change, checkWritable, haccess, h, hedit, hsave]
        | ok later =>
          have hmade := htidied.kept.trans hdatabase
          obtain ⟨hwritten, hkeeps⟩ := save_eq_ok hsave hmade
          refine Or.inr ⟨later, database, answer, written, ?_, rfl, hdatabase, hedit, hwritten,
            htidied.keeps.trans hkeeps⟩
          simp [change, checkWritable, haccess, h, hedit, hsave]

lemma connect_database (hpath : OnDisk path) (access : Access)
    (h : files.node? (databasePlace path files) = some (.database database)) :
    (∃ e, connect access path files = (files, .error e)) ∨
      connect access path files = (files, .ok (connectionTo path files access)) := by
  rcases connect_cases hpath access files with he | ⟨later, hc, -, rfl | ⟨hnone, -⟩⟩
  · exact Or.inl he
  · exact Or.inr hc
  · cases h.symm.trans hnone

lemma prepare_database (connection : Connection)
    (h : files.node? connection.place = some (.database database)) :
    ∃ later, Tidied connection.place files later ∧
      ((∃ fault, connection.prepare files = (later, .error fault)) ∨
        connection.prepare files = (later, .ok ())) := by
  have htidied := settled_tidied connection files
  simp only [prepare]
  cases hsettled : connection.settled files with
  | mk later result =>
    rw [hsettled] at htidied
    refine ⟨later, htidied, ?_⟩
    cases result with
    | error fault => exact Or.inl ⟨fault, rfl⟩
    | ok _ =>
      have hread : connection.read? later = .ok (some database) := by
        simp only [read?, htidied.kept, h]
      simp [hread]

lemma connectPrepared_database (hpath : OnDisk path)
    (h : files.node? (databasePlace path files) = some (.database database)) :
    ∃ later, Undisturbed (databasePlace path files) files later ∧
      ((∃ e, connectPrepared path files = (later, .error e)) ∨
        connectPrepared path files = (later, .ok (connectionTo path files .writing))) := by
  simp only [connectPrepared]
  rcases connect_database hpath .writing h with ⟨e, he⟩ | hc
  · exact ⟨files, Undisturbed.refl _ files, Or.inl ⟨e, by rw [he]⟩⟩
  · obtain ⟨later, htidied, ⟨fault, hprepare⟩ | hprepare⟩ :=
      prepare_database (connectionTo path files .writing) h
    · refine ⟨later, htidied.undisturbed, Or.inl ⟨.storage (.migration 1 fault), ?_⟩⟩
      simp [hc, hprepare]
    · exact ⟨later, htidied.undisturbed, Or.inr (by simp [hc, hprepare])⟩

lemma openWith_database (hpath : OnDisk path) (access : Access)
    (h : files.node? (databasePlace path files) = some (.database database)) :
    ∃ later, Undisturbed (databasePlace path files) files later ∧
      ((∃ e, openWith access path files = (later, .error e)) ∨
        openWith access path files = (later, .ok (connectionTo path files access))) := by
  cases access with
  | reading =>
    refine ⟨files, Undisturbed.refl _ files, ?_⟩
    simp only [openWith, openReadable]
    split
    · exact connect_database hpath .reading h
    · exact Or.inl ⟨_, rfl⟩
  | writing =>
    simp only [openWith, openWritable]
    cases Files.parent? path with
    | none => exact connectPrepared_database hpath h
    | some parent =>
      have hgrown : Grown files (files.makeDirectories parent).1 := Files.grown_of_makeChain _ files
      have hfilled : files.node? (databasePlace path files) ≠ none := by simp [h]
      have hmade := undisturbed_of_grown hgrown hfilled
      simp only [Option.map_some]
      cases hresult : files.makeDirectories parent with
      | mk made result =>
        rw [hresult] at hmade
        cases result with
        | some fault => exact ⟨made, hmade, Or.inl ⟨_, rfl⟩⟩
        | none =>
          have hcurrent := hmade.keeps.current
          have hplace := databasePlace_current hcurrent path
          have hthere : made.node? (databasePlace path made) = some (.database database) := by
            rw [hplace, hmade.kept, h]
          obtain ⟨later, hlater, hopened⟩ := connectPrepared_database hpath hthere
          rw [hplace] at hlater
          rw [connectionTo_current hcurrent] at hopened
          exact ⟨later, hmade.trans hlater, hopened⟩

end Connection

end ContentHub.Store
