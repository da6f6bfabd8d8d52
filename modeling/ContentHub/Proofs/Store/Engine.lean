import ContentHub.Proofs.Files.Directories
import ContentHub.Store.Connection
import Mathlib.Tactic

/-!
What requests do to the files of a database. `Serving` says that a database is at its place and
nothing is in the way of reading and writing it; every request keeps it, and opening a place without
a database either brings it about or leaves the place without one.
-/

namespace ContentHub.Store

open Files (KeepsDirectories Grown)

lemma beside_ne (place : Place) (ending : String) (hending : ending ≠ "") :
    beside place ending ≠ place := by
  intro hsame
  rw [beside] at hsame
  have hlast := congrArg (fun p => p.getLastD "") hsame
  simp only [List.getLastD_concat] at hlast
  have hsize := congrArg String.length hlast
  rw [String.length_append] at hsize
  exact hending (String.length_eq_zero_iff.mp (by omega))

lemma journalPlace_ne (place : Place) : journalPlace place ≠ place :=
  beside_ne place "-journal" (by decide)

lemma logPlace_ne (place : Place) : logPlace place ≠ place :=
  beside_ne place "-wal" (by decide)

structure Tidied (place : Place) (files later : Files) : Prop where
  keeps : KeepsDirectories files later
  kept : later.node? place = files.node? place
  others : ∀ other, later.node? other = files.node? other ∨ later.node? other = none

lemma Tidied.refl (place : Place) (files : Files) : Tidied place files files :=
  ⟨⟨rfl, fun _ h => h⟩, rfl, fun _ => Or.inl rfl⟩

lemma Tidied.trans {place : Place} {files made later : Files} (h : Tidied place files made)
    (hl : Tidied place made later) : Tidied place files later := by
  refine ⟨h.keeps.trans hl.keeps, hl.kept.trans h.kept, fun other => ?_⟩
  rcases hl.others other with ho | ho
  · exact (h.others other).imp ho.trans ho.trans
  · exact Or.inr ho

lemma tidied_remove (place other : Place) (files : Files) (hne : other ≠ place)
    (hfile : files.node? other ≠ some .directory) : Tidied place files (files.remove other) := by
  refine ⟨⟨rfl, fun p hp => ?_⟩, Files.node?_remove_of_ne other place files hne.symm,
    fun p => Files.node?_remove other p files⟩
  have hp' : p ≠ other := fun h => hfile (h ▸ hp)
  exact (Files.node?_remove_of_ne other p files hp').trans hp

variable {place : Place} {files later : Files}

lemma leftover?_eq_directory (files : Files) (place : Place) :
    leftover? files place = some .directory ↔ files.node? place = some .directory := by
  simp only [leftover?]
  split <;> simp_all

lemma settleJournal_eq_ok (frozen : Bool) (h : settleJournal frozen place files = .ok later) :
    later = files ∨ files.node? (journalPlace place) ≠ some .directory ∧
      later = files.remove (journalPlace place) := by
  simp only [settleJournal] at h
  split at h
  · exact Or.inl (Except.ok.inj h).symm
  · split at h
    · exact Or.inl (Except.ok.inj h).symm
    · cases h
  · rename_i node hfile hleft
    have hnode : files.node? (journalPlace place) ≠ some .directory := fun hdir => by
      rw [(leftover?_eq_directory files _).mpr hdir] at hleft
      exact hfile (Option.some.inj hleft).symm
    split at h
    · cases frozen
      · exact Or.inr ⟨hnode, (Except.ok.inj h).symm⟩
      · exact Or.inl (Except.ok.inj h).symm
    · split at h
      · exact Or.inl (Except.ok.inj h).symm
      · split at h
        · cases h
        · exact Or.inr ⟨hnode, (Except.ok.inj h).symm⟩

lemma settleLog_eq_ok (frozen : Bool) (h : settleLog frozen place files = .ok later) :
    files.node? (logPlace place) ≠ some .directory ∧
      (later = files ∨ later = files.remove (logPlace place)) := by
  simp only [settleLog] at h
  split at h
  · rename_i hleft
    refine ⟨fun hdir => ?_, Or.inl (Except.ok.inj h).symm⟩
    rw [(leftover?_eq_directory files _).mpr hdir] at hleft
    cases hleft
  · cases h
  · rename_i node hfile hleft
    refine ⟨fun hdir => ?_, ?_⟩
    · rw [(leftover?_eq_directory files _).mpr hdir] at hleft
      exact hfile (Option.some.inj hleft).symm
    · split at h
      · exact Or.inl (Except.ok.inj h).symm
      · exact Or.inr (Except.ok.inj h).symm

lemma settleJournal_tidied (frozen : Bool) (h : settleJournal frozen place files = .ok later) :
    Tidied place files later := by
  rcases settleJournal_eq_ok frozen h with rfl | ⟨hnode, rfl⟩
  · exact Tidied.refl place later
  · exact tidied_remove place _ files (journalPlace_ne place) hnode

lemma settleLog_tidied (frozen : Bool) (h : settleLog frozen place files = .ok later) :
    Tidied place files later ∧ later.node? (logPlace place) ≠ some .directory := by
  obtain ⟨hnode, rfl | rfl⟩ := settleLog_eq_ok frozen h
  · exact ⟨Tidied.refl place later, hnode⟩
  · have htidied := tidied_remove place _ files (logPlace_ne place) hnode
    refine ⟨htidied, fun hdir => ?_⟩
    rcases htidied.others (logPlace place) with ho | ho <;> rw [ho] at hdir
    · exact hnode hdir
    · cases hdir

lemma settle_tidied (frozen : Bool) (place : Place) (files : Files) :
    Tidied place files (settle frozen place files).1 := by
  simp only [settle]
  split
  · exact Tidied.refl place files
  · rename_i made hjournal
    have hmade := settleJournal_tidied frozen hjournal
    split
    · exact hmade
    · rename_i later hlog
      exact hmade.trans (settleLog_tidied frozen hlog).1

lemma settle_log (frozen : Bool) (h : settle frozen place files = (later, .ok ())) :
    later.node? (logPlace place) ≠ some .directory := by
  simp only [settle] at h
  split at h
  · cases h
  · split at h
    · cases h
    · rename_i made hlog
      obtain rfl : made = later := congrArg Prod.fst h
      exact (settleLog_tidied frozen hlog).2

structure Serving (place : Place) (database : Database) (files : Files) : Prop where
  kept : files.node? place = some (.database database)
  journal : files.node? (journalPlace place) ≠ some .directory
  log : files.node? (logPlace place) ≠ some .directory
  room : ((journalPlace place).getLastD "").utf8ByteSize ≤ Files.maxNameSize

variable {database : Database}

lemma Tidied.notDirectory (h : Tidied place files later) {other : Place}
    (hfile : files.node? other ≠ some .directory) : later.node? other ≠ some .directory := by
  rcases h.others other with hother | hother <;> rw [hother]
  · exact hfile
  · simp

lemma Serving.tidied (h : Serving place database files) (ht : Tidied place files later) :
    Serving place database later :=
  ⟨ht.kept.trans h.kept, ht.notDirectory h.journal, ht.notDirectory h.log, h.room⟩

lemma Serving.place_ne_nil (h : Serving place database files) : place ≠ [] := by
  rintro rfl
  simpa [Files.node?] using h.kept

lemma settleJournal_clear (h : files.node? (journalPlace place) ≠ some .directory) :
    ∃ later, settleJournal false place files = .ok later := by
  simp only [settleJournal]
  split
  · exact ⟨_, rfl⟩
  · next hleft => exact absurd ((leftover?_eq_directory files _).mp hleft) h
  · split
    · exact ⟨_, rfl⟩
    · split
      · exact ⟨_, rfl⟩
      · exact ⟨_, rfl⟩

lemma settleLog_clear (h : files.node? (logPlace place) ≠ some .directory) :
    ∃ later, settleLog false place files = .ok later := by
  simp only [settleLog]
  split
  · exact ⟨_, rfl⟩
  · next hleft => exact absurd ((leftover?_eq_directory files _).mp hleft) h
  · exact ⟨_, rfl⟩

lemma settle_clear (hjournal : files.node? (journalPlace place) ≠ some .directory)
    (hlog : files.node? (logPlace place) ≠ some .directory) :
    ∃ later, settle false place files = (later, .ok ()) ∧ Tidied place files later := by
  obtain ⟨made, hmade⟩ := settleJournal_clear hjournal
  have htidied := settleJournal_tidied false hmade
  obtain ⟨later, hlater⟩ := settleLog_clear (htidied.notDirectory hlog)
  refine ⟨later, by simp [settle, hmade, hlater], ?_⟩
  exact htidied.trans (settleLog_tidied false hlater).1

def Vacant (place : Place) (files : Files) : Prop :=
  ∀ database, files.node? place ≠ some (.database database)

lemma Vacant.tidied (h : Vacant place files) (ht : Tidied place files later) : Vacant place later :=
  fun database => ht.kept ▸ h database

namespace Connection

variable {connection : Connection}

lemma settled_tidied (connection : Connection) (files : Files) :
    Tidied connection.place files (connection.settled files).1 := by
  simp only [settled]
  split
  · exact Tidied.refl _ files
  · exact settle_tidied _ _ files

lemma settled_serving (hfrozen : connection.frozen = false)
    (h : Serving connection.place database files) :
    ∃ later, connection.settled files = (later, .ok ()) ∧ Tidied connection.place files later := by
  simp only [settled]
  split
  · exact ⟨files, rfl, Tidied.refl _ files⟩
  · exact hfrozen ▸ settle_clear h.journal h.log

lemma database_serving (hfrozen : connection.frozen = false)
    (h : Serving connection.place database files) :
    ∃ later, connection.database files = (later, .ok database) ∧
      Tidied connection.place files later := by
  obtain ⟨later, hsettled, htidied⟩ := settled_serving hfrozen h
  refine ⟨later, ?_, htidied⟩
  simp [Connection.database, hsettled, read?, (h.tidied htidied).kept]

lemma read?_vacant (h : Vacant connection.place files) :
    connection.read? files = .ok none ∧ files.node? connection.place ≠ some .directory ∨
      connection.read? files = .error .notADatabase := by
  simp only [read?]
  split
  · rename_i database hdatabase
    exact absurd hdatabase (h database)
  · split
    · rename_i hblank
      exact Or.inl ⟨rfl, fun hdir => by simp [isBlank, hdir] at hblank⟩
    · exact Or.inr rfl

lemma database_vacant (h : Vacant connection.place files) :
    ∃ later fault, connection.database files = (later, .error (.storage (.engine fault))) ∧
      Tidied connection.place files later := by
  have htidied := settled_tidied connection files
  simp only [Connection.database]
  split
  · rename_i made fault hsettled
    rw [hsettled] at htidied
    exact ⟨made, fault, rfl, htidied⟩
  · rename_i made hsettled
    rw [hsettled] at htidied
    rcases read?_vacant (h.tidied htidied) with ⟨hread, -⟩ | hread
    · exact ⟨made, .noTable, by simp [hread], htidied⟩
    · exact ⟨made, .notADatabase, by simp [hread], htidied⟩

lemma save_serving (written : Database) (hfrozen : connection.frozen = false)
    (h : Serving connection.place database files) :
    ∃ later, connection.save written files = .ok later := by
  have hroom : hasRoomForJournal connection.place files = true := by
    simpa [hasRoomForJournal, h.journal] using h.room
  simp only [save]
  simp only [hfrozen, hroom]
  split
  · contradiction
  · split <;> exact ⟨_, rfl⟩

lemma save_cases {written : Database} (h : connection.save written files = .ok later) :
    connection.frozen = false ∧
      (connection.apart = true ∧ later = files.put connection.place (.database written) ∨
        connection.apart = false ∧
          ((journalPlace connection.place).getLastD "").utf8ByteSize ≤ Files.maxNameSize ∧
          files.node? (journalPlace connection.place) ≠ some .directory ∧
          later = (files.remove (journalPlace connection.place)).put connection.place
            (.database written)) := by
  simp only [save] at h
  split at h
  · cases h
  · next hfrozen =>
    refine ⟨Bool.eq_false_of_not_eq_true hfrozen, ?_⟩
    split at h
    · next hapart => exact Or.inl ⟨hapart, (Except.ok.inj h).symm⟩
    · next hbeside =>
      split at h
      · next hroom =>
        simp only [hasRoomForJournal, Bool.and_eq_true, decide_eq_true_eq, bne_iff_ne] at hroom
        exact Or.inr ⟨Bool.eq_false_of_not_eq_true hbeside, hroom.1, hroom.2,
          (Except.ok.inj h).symm⟩
      · cases h

lemma serving_of_save (written : Database) (hplace : connection.place ≠ [])
    (hfile : files.node? connection.place ≠ some .directory)
    (hlog : files.node? (logPlace connection.place) ≠ some .directory)
    (hapart : connection.apart = true → connection.frozen = true)
    (h : connection.save written files = .ok later) :
    connection.frozen = false ∧ Serving connection.place written later ∧
      KeepsDirectories files later := by
  obtain ⟨hfrozen, ⟨ha, -⟩ | ⟨-, hroom, hjournal, rfl⟩⟩ := save_cases h
  · rw [hapart ha] at hfrozen
    cases hfrozen
  · have hremoved := tidied_remove connection.place _ files (journalPlace_ne _) hjournal
    refine ⟨hfrozen, ⟨Files.node?_put_self _ _ _ hplace, ?_, ?_, hroom⟩, ?_⟩
    · rw [Files.node?_put_of_ne _ _ _ _ (journalPlace_ne _),
        Files.node?_remove_self _ _ (by simp [journalPlace, beside])]
      simp
    · rw [Files.node?_put_of_ne _ _ _ _ (logPlace_ne _)]
      rcases hremoved.others (logPlace connection.place) with ho | ho <;> rw [ho]
      · exact hlog
      · simp
    · refine ⟨rfl, fun p hp => ?_⟩
      have hp' : p ≠ connection.place := fun hsame => hfile (hsame ▸ hp)
      rw [Files.node?_put_of_ne _ _ _ _ hp']
      exact hremoved.keeps.directories p hp

lemma prepare_serving (connection : Connection) (hfrozen : connection.frozen = false)
    (h : Serving connection.place database files) :
    ∃ later, connection.prepare files = (later, .ok ()) ∧ Tidied connection.place files later := by
  obtain ⟨later, hsettled, htidied⟩ := settled_serving hfrozen h
  refine ⟨later, ?_, htidied⟩
  simp [prepare, hsettled, read?, (h.tidied htidied).kept]

lemma prepare_vacant (connection : Connection) (hplace : connection.place ≠ [])
    (hapart : connection.apart = true → connection.frozen = true)
    (h : Vacant connection.place files) :
    (∃ later fault, connection.prepare files = (later, .error fault) ∧
        Tidied connection.place files later) ∨
      ∃ later, connection.prepare files = (later, .ok ()) ∧ connection.frozen = false ∧
        Serving connection.place {} later ∧ KeepsDirectories files later := by
  have htidied := settled_tidied connection files
  simp only [prepare]
  split
  · rename_i made fault hsettled
    rw [hsettled] at htidied
    exact Or.inl ⟨made, fault, rfl, htidied⟩
  · rename_i made hsettled
    rw [hsettled] at htidied
    rcases read?_vacant (h.tidied htidied) with ⟨hread, hfile⟩ | hread
    · simp only [hread]
      cases hsave : connection.save {} made with
      | error fault => exact Or.inl ⟨made, fault, rfl, htidied⟩
      | ok later =>
        have hlog : made.node? (logPlace connection.place) ≠ some .directory := by
          simp only [settled] at hsettled
          split at hsettled
          · rename_i ha
            simp [save, hapart ha] at hsave
          · exact settle_log _ hsettled
        obtain ⟨hfrozen, hserving, hkeeps⟩ := serving_of_save {} hplace hfile hlog hapart hsave
        exact Or.inr ⟨later, rfl, hfrozen, hserving, htidied.keeps.trans hkeeps⟩
    · exact Or.inl ⟨made, .notADatabase, by simp [hread], htidied⟩

lemma prepare_clear (hfrozen : connection.frozen = false) (hapart : connection.apart = false)
    (hblank : isBlank files connection.place = true)
    (hjournal : files.node? (journalPlace connection.place) ≠ some .directory)
    (hlog : files.node? (logPlace connection.place) ≠ some .directory)
    (hroom : ((journalPlace connection.place).getLastD "").utf8ByteSize ≤ Files.maxNameSize) :
    ∃ later, connection.prepare files = (later, .ok ()) ∧ Serving connection.place {} later := by
  have hvacant : Vacant connection.place files := fun database hdatabase => by
    simp [isBlank, hdatabase] at hblank
  have hplace : connection.place ≠ [] := by
    intro hroot
    simp [isBlank, Files.node?, hroot] at hblank
  obtain ⟨made, hsettle, htidied⟩ := settle_clear hjournal hlog
  have hsettled : connection.settled files = (made, .ok ()) := by
    rw [settled, hapart, hfrozen, hsettle]
    rfl
  have hread : connection.read? made = .ok none := by
    have hstill : isBlank made connection.place = true := by
      rwa [isBlank, htidied.kept, ← isBlank]
    rw [read?, if_pos hstill]
    split
    · next database hdatabase => exact absurd (htidied.kept ▸ hdatabase) (hvacant database)
    · rfl
  obtain ⟨later, hsave⟩ : ∃ later, connection.save {} made = .ok later := by
    have hclear : hasRoomForJournal connection.place made = true := by
      simpa [hasRoomForJournal, htidied.notDirectory hjournal] using hroom
    simp [save, hfrozen, hapart, hclear]
  have hprepare : connection.prepare files = (later, .ok ()) := by
    simp [prepare, hsettled, hread, hsave]
  refine ⟨later, hprepare, ?_⟩
  rcases prepare_vacant connection hplace (by simp [hapart]) hvacant with
    ⟨_, fault, hfails, -⟩ | ⟨other, hsame, -, hserving, -⟩
  · cases hprepare.symm.trans hfails
  · obtain rfl : later = other := congrArg Prod.fst (hprepare.symm.trans hsame)
    exact hserving

section Requests

variable {α : Type} (connection : Connection) (question : Database → Except Error α)
  (edit : Database → Except Error (α × Database))

lemma ask_serving (hfrozen : connection.frozen = false)
    (h : Serving connection.place database files) :
    ∃ later, connection.ask question files = (later, question database) ∧
      Tidied connection.place files later := by
  obtain ⟨later, hdatabase, htidied⟩ := database_serving hfrozen h
  exact ⟨later, by simp [ask, hdatabase], htidied⟩

lemma ask_vacant (h : Vacant connection.place files) :
    ∃ later fault, connection.ask question files = (later, .error (.storage (.engine fault))) ∧
      Tidied connection.place files later := by
  obtain ⟨later, fault, hdatabase, htidied⟩ := database_vacant h
  exact ⟨later, fault, by simp [ask, hdatabase], htidied⟩

lemma change_reading (files : Files) (haccess : connection.access = .reading) :
    connection.change edit files = (files, .error (.storage .readOnly)) := by
  simp [change, checkWritable, haccess]

lemma change_refused (e : Error) (haccess : connection.access = .writing)
    (hfrozen : connection.frozen = false) (h : Serving connection.place database files)
    (hedit : edit database = .error e) :
    ∃ later, connection.change edit files = (later, .error e) ∧
      Tidied connection.place files later := by
  obtain ⟨later, hdatabase, htidied⟩ := database_serving hfrozen h
  exact ⟨later, by simp [change, checkWritable, haccess, hdatabase, hedit], htidied⟩

lemma change_serving (answer : α) (written : Database) (haccess : connection.access = .writing)
    (hfrozen : connection.frozen = false)
    (hapart : connection.apart = true → connection.frozen = true)
    (h : Serving connection.place database files) (hedit : edit database = .ok (answer, written)) :
    ∃ later, connection.change edit files = (later, .ok answer) ∧
      Serving connection.place written later ∧ KeepsDirectories files later := by
  obtain ⟨made, hdatabase, htidied⟩ := database_serving hfrozen h
  have hmade := h.tidied htidied
  obtain ⟨later, hsave⟩ := save_serving written hfrozen hmade
  have hfile : made.node? connection.place ≠ some .directory := by simp [hmade.kept]
  obtain ⟨-, hserving, hkeeps⟩ :=
    serving_of_save written hmade.place_ne_nil hfile hmade.log hapart hsave
  refine ⟨later, ?_, hserving, htidied.keeps.trans hkeeps⟩
  simp [change, checkWritable, haccess, hdatabase, hedit, hsave]

end Requests

end Connection

end ContentHub.Store
