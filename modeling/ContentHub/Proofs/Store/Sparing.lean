import ContentHub.Proofs.Store.Reopening
import Mathlib.Tactic

namespace ContentHub.Store

open Files (KeepsDirectories Grown)

def ownPlaces (place : Place) : List Place :=
  [place, journalPlace place, logPlace place]

structure Spares (place : Place) (files later : Files) : Prop where
  current : later.current = files.current
  nodes : ∀ other node, files.node? other = some node →
    node = .directory ∨ other ∉ ownPlaces place → later.node? other = some node

variable {place : Place} {files made later : Files} {path : String}

lemma Spares.refl (place : Place) (files : Files) : Spares place files files :=
  ⟨rfl, fun _ _ h _ => h⟩

lemma Spares.trans (h : Spares place files made) (hl : Spares place made later) :
    Spares place files later where
  current := hl.current.trans h.current
  nodes other node hnode hspared := hl.nodes other node (h.nodes other node hnode hspared) hspared

lemma Spares.keepsDirectories (h : Spares place files later) : KeepsDirectories files later :=
  ⟨h.current, fun other hdirectory => h.nodes other _ hdirectory (Or.inl rfl)⟩

lemma spares_of_grown (h : Grown files later) : Spares place files later where
  current := h.current
  nodes other node hnode _ := by
    rcases h.nodes other with hsame | ⟨hnone, -⟩
    · exact hsame.trans hnode
    · cases hnone.symm.trans hnode

lemma spares_of_others {touched : Place} (htouched : touched ∈ ownPlaces place)
    (hfile : files.node? touched ≠ some .directory) (hcurrent : later.current = files.current)
    (hothers : ∀ other, other ≠ touched → later.node? other = files.node? other) :
    Spares place files later where
  current := hcurrent
  nodes other node hnode hspared := by
    have hne : other ≠ touched := by
      rintro rfl
      rcases hspared with rfl | hother
      · exact hfile hnode
      · exact hother htouched
    rw [hothers other hne, hnode]

lemma spares_put {touched : Place} (htouched : touched ∈ ownPlaces place) (node : Node)
    (hfile : files.node? touched ≠ some .directory) :
    Spares place files (files.put touched node) :=
  spares_of_others htouched hfile rfl fun other => Files.node?_put_of_ne touched other node files

lemma spares_remove {touched : Place} (htouched : touched ∈ ownPlaces place)
    (hfile : files.node? touched ≠ some .directory) :
    Spares place files (files.remove touched) :=
  spares_of_others htouched hfile rfl fun other => Files.node?_remove_of_ne touched other files

lemma settle_spares (frozen : Bool) (place : Place) (files : Files) :
    Spares place files (settle frozen place files).1 := by
  simp only [settle]
  split
  · exact Spares.refl place files
  · next made hjournal =>
    have hmade : Spares place files made := by
      rcases settleJournal_eq_ok frozen hjournal with rfl | ⟨hfile, rfl⟩
      · exact Spares.refl place made
      · exact spares_remove (by simp [ownPlaces]) hfile
    split
    · exact hmade
    · next hlog =>
      apply hmade.trans
      obtain ⟨hfile, rfl | rfl⟩ := settleLog_eq_ok frozen hlog
      · exact Spares.refl place _
      · exact spares_remove (by simp [ownPlaces]) hfile

lemma Spares.readText {file text : String} (h : Spares place files later)
    (hplace : files.placeOf file ∉ ownPlaces place) (hread : files.readText file = .ok text) :
    later.readText file = .ok text := by
  cases hlocate : files.locate file with
  | error fault => simp [Files.readText, Files.find, hlocate, Except.bind] at hread
  | ok found =>
    have hlater : later.locate file = .ok found := by
      rw [Files.locate_eq_ok_iff] at hlocate ⊢
      obtain ⟨hfilled, hnul, hsize, hwalk⟩ := hlocate
      rw [h.current]
      exact ⟨hfilled, hnul, hsize, Files.walk_of_keepsDirectories h.keepsDirectories _ _ _ hwalk⟩
    rw [Files.placeOf_of_locate hlocate] at hplace
    cases hnode : files.node? found with
    | none => simp [Files.readText, Files.find, hlocate, Except.bind, hnode] at hread
    | some node =>
      have hsame := h.nodes found node hnode (Or.inr hplace)
      simpa [Files.readText, Files.find, hlocate, hlater, Except.bind, hnode, hsame] using hread

namespace Connection

variable {connection : Connection} {database : Database}

lemma settled_spares (connection : Connection) (files : Files) :
    Spares connection.place files (connection.settled files).1 := by
  simp only [settled]
  split
  · exact Spares.refl _ files
  · exact settle_spares _ _ files

lemma save_spares (hfile : files.node? connection.place ≠ some .directory)
    (h : connection.save database files = .ok later) : Spares connection.place files later := by
  have hput : ∀ made : Files, made.node? connection.place ≠ some .directory →
      Spares connection.place made (made.put connection.place (.database database)) :=
    fun made => spares_put (by simp [ownPlaces]) (.database database)
  obtain ⟨-, ⟨-, rfl⟩ | ⟨-, -, hjournal, rfl⟩⟩ := save_cases h
  · exact hput files hfile
  · apply (spares_remove (by simp [ownPlaces]) hjournal).trans
    apply hput
    rwa [Files.node?_remove_of_ne _ _ _ (journalPlace_ne connection.place).symm]

lemma prepare_spares (connection : Connection) (files : Files) :
    Spares connection.place files (connection.prepare files).1 := by
  have hsettled := settled_spares connection files
  simp only [prepare]
  split
  · next made _ hmade =>
    rw [hmade] at hsettled
    exact hsettled
  · next made hmade =>
    rw [hmade] at hsettled
    split
    · exact hsettled
    · exact hsettled
    · next hread =>
      have hfile : made.node? connection.place ≠ some .directory := by
        intro hdirectory
        simp [read?, isBlank, hdirectory] at hread
      split
      · exact hsettled
      · next hsave => exact hsettled.trans (save_spares hfile hsave)

lemma connect_spares (hpath : OnDisk path) (access : Access) (files : Files) :
    Spares (databasePlace path files) files (connect access path files).1 := by
  rcases connect_cases hpath access files with ⟨e, he⟩ | ⟨later, hc, -, rfl | ⟨hnone, rfl⟩⟩
  · rw [he]
    exact Spares.refl _ files
  · rw [hc]
    exact Spares.refl _ _
  · rw [hc]
    exact spares_put (by simp [ownPlaces]) _ (by simp [hnone])

lemma connectPrepared_spares (hpath : OnDisk path) (files : Files) :
    Spares (databasePlace path files) files (connectPrepared path files).1 := by
  have hspares := connect_spares hpath .writing files
  simp only [connectPrepared]
  rcases connect_cases hpath .writing files with ⟨e, he⟩ | ⟨made, hconnect, -, -⟩
  · simp only [he]
    exact Spares.refl _ files
  · rw [hconnect] at hspares
    have hprepared := prepare_spares (connectionTo path files .writing) made
    simp only [hconnect]
    split
    · next hprepare =>
      rw [hprepare] at hprepared
      exact hspares.trans hprepared
    · next hprepare =>
      rw [hprepare] at hprepared
      exact hspares.trans hprepared

lemma openWritable_spares (hpath : OnDisk path) (files : Files) :
    Spares (databasePlace path files) files (openWritable path files).1 := by
  simp only [openWritable]
  cases hparent : Files.parent? path with
  | none => exact connectPrepared_spares hpath files
  | some parent =>
    have hgrown : Grown files (files.makeDirectories parent).1 := Files.grown_of_makeChain _ files
    simp only [Option.map_some]
    cases hresult : files.makeDirectories parent with
    | mk made fault =>
      rw [hresult] at hgrown
      have hmade : Spares (databasePlace path files) files made := spares_of_grown hgrown
      cases fault with
      | some fault => exact hmade
      | none =>
        have hprepared := connectPrepared_spares hpath made
        rw [databasePlace_current hgrown.current] at hprepared
        exact hmade.trans hprepared

lemma openWith_spares (hpath : OnDisk path) (access : Access) (files : Files) :
    Spares (databasePlace path files) files (openWith access path files).1 := by
  cases access with
  | writing => exact openWritable_spares hpath files
  | reading =>
    simp only [openWith, openReadable]
    split
    · exact connect_spares hpath .reading files
    · exact Spares.refl _ files

end Connection

end ContentHub.Store
