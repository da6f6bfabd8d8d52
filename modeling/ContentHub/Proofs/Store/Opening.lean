import ContentHub.Proofs.Store.Engine
import Mathlib.Tactic

namespace ContentHub.Store

open Files (KeepsDirectories Grown)

def locatorOf (path : String) : Locator :=
  (Locator.ofPath path).toOption.getD { name := path }

def databasePlace (path : String) (files : Files) : Place :=
  files.placeOf (locatorOf path).name

structure OnDisk (path : String) : Prop where
  notInMemory : isMemoryPath path = false
  notPrivate : (locatorOf path).isPrivate = false

def connectionTo (path : String) (files : Files) (access : Access) : Connection where
  place := databasePlace path files
  access := access
  frozen := (locatorOf path).isFrozen
  apart := (locatorOf path).immutable

def ParentMade (path : String) (files : Files) : Prop :=
  ∀ parent, Files.parent? path = some parent →
    parent.isEmpty = true ∨ files.isDirectory parent = true

lemma ParentMade.keeps {path : String} {files later : Files} (h : ParentMade path files)
    (hkeeps : KeepsDirectories files later) : ParentMade path later :=
  fun parent hparent =>
    (h parent hparent).imp_right (Files.isDirectory_of_keepsDirectories hkeeps parent)

lemma placeOf_current {files later : Files} (h : later.current = files.current) (path : String) :
    later.placeOf path = files.placeOf path := by
  simp [Files.placeOf, h]

lemma databasePlace_current {files later : Files} (h : later.current = files.current)
    (path : String) : databasePlace path later = databasePlace path files :=
  placeOf_current h _

lemma connectionTo_current {files later : Files} (h : later.current = files.current)
    (path : String) (access : Access) :
    connectionTo path later access = connectionTo path files access := by
  simp [connectionTo, databasePlace_current h]

lemma descend_eq_some (files : Files) (here place : Place) (parts : List String)
    (h : descend files here parts = some place) :
    place = parts.foldl Files.step here ∧ place ≠ [] := by
  induction parts generalizing here with
  | nil =>
    simp only [descend] at h
    split at h
    · cases h
    · rename_i hroom
      obtain rfl := Option.some.inj h
      exact ⟨rfl, fun hroot => hroom (Or.inl hroot)⟩
  | cons part rest ih =>
    simp only [descend] at h
    split at h
    · exact ih _ h
    · split at h
      · cases h
      · split at h
        · exact ih _ h
        · exact ih _ h
        · cases h

lemma attach_eq_ok (locator : Locator) (files later : Files) (place : Place)
    (h : attach locator files = .ok (place, later)) :
    place = files.placeOf locator.name ∧ place ≠ [] ∧
      (later = files ∨ files.node? place = none ∧ later = files.put place (.text "")) := by
  simp only [attach] at h
  split at h
  · cases h
  · rename_i found hfound
    obtain ⟨hplace, hroot⟩ := descend_eq_some files _ found _ hfound
    split at h
    · cases h
    · obtain ⟨rfl, rfl⟩ := Prod.mk.inj (Except.ok.inj h)
      exact ⟨hplace, hroot, Or.inl rfl⟩
    · rename_i hnone
      split at h
      · obtain ⟨rfl, rfl⟩ := Prod.mk.inj (Except.ok.inj h)
        exact ⟨hplace, hroot, Or.inr ⟨hnone, rfl⟩⟩
      · cases h

variable {path : String} {files : Files} {database : Database}

lemma connectionTo_apart (hpath : OnDisk path) (access : Access)
    (h : (connectionTo path files access).apart = true) :
    (connectionTo path files access).frozen = true := by
  simp only [connectionTo] at h ⊢
  simp [Locator.isFrozen, h, hpath.notPrivate]

lemma keepsDirectories_put (place : Place) (node : Node)
    (h : files.node? place ≠ some .directory) : KeepsDirectories files (files.put place node) := by
  refine ⟨rfl, fun other ho => ?_⟩
  have hne : other ≠ place := fun hsame => h (hsame ▸ ho)
  rwa [Files.node?_put_of_ne _ _ _ _ hne]

namespace Connection

lemma connect_cases (hpath : OnDisk path) (access : Access) (files : Files) :
    (∃ e, connect access path files = (files, .error e)) ∨
      ∃ later, connect access path files = (later, .ok (connectionTo path files access)) ∧
        databasePlace path files ≠ [] ∧ (later = files ∨
          files.node? (databasePlace path files) = none ∧
            later = files.put (databasePlace path files) (.text "")) := by
  simp only [connect]
  simp only [hpath.notInMemory, Bool.not_false, Bool.true_and]
  split
  · exact Or.inl ⟨_, rfl⟩
  · simp only [Bool.false_eq_true, if_false]
    split
    · exact Or.inl ⟨_, rfl⟩
    · rename_i locator hlocator
      have hl : locatorOf path = locator := by simp [locatorOf, hlocator, Except.toOption]
      rw [if_neg (by simp [← hl, hpath.notPrivate])]
      split
      · exact Or.inl ⟨_, rfl⟩
      · rename_i place later hattach
        obtain ⟨hplace, hroot, hlater⟩ := attach_eq_ok locator files later place hattach
        have hsame : databasePlace path files = place := by rw [hplace, databasePlace, hl]
        exact Or.inr ⟨later, by simp [connectionTo, hsame, hl], hsame ▸ hroot, hsame ▸ hlater⟩

lemma connect_serving (hpath : OnDisk path) (access : Access)
    (h : Serving (databasePlace path files) database files) :
    (∃ e, connect access path files = (files, .error e)) ∨
      connect access path files = (files, .ok (connectionTo path files access)) := by
  rcases connect_cases hpath access files with he | ⟨later, hc, -, rfl | ⟨hnone, -⟩⟩
  · exact Or.inl he
  · exact Or.inr hc
  · exact absurd (h.kept.symm.trans hnone) (by simp)

lemma connect_vacant (hpath : OnDisk path) (access : Access)
    (h : Vacant (databasePlace path files) files) :
    (∃ e, connect access path files = (files, .error e)) ∨
      ∃ later, connect access path files = (later, .ok (connectionTo path files access)) ∧
        databasePlace path files ≠ [] ∧ Vacant (databasePlace path files) later ∧
        KeepsDirectories files later := by
  rcases connect_cases hpath access files with he | ⟨later, hc, hroot, rfl | ⟨hnone, rfl⟩⟩
  · exact Or.inl he
  · exact Or.inr ⟨_, hc, hroot, h, rfl, fun _ hp => hp⟩
  · refine Or.inr ⟨_, hc, hroot, fun database => ?_, keepsDirectories_put _ _ (by simp [hnone])⟩
    simp [Files.node?_put_self _ _ _ hroot]

lemma connectPrepared_serving (hpath : OnDisk path) (hfrozen : (locatorOf path).isFrozen = false)
    (h : Serving (databasePlace path files) database files) :
    ∃ later, Tidied (databasePlace path files) files later ∧
      ((∃ e, connectPrepared path files = (later, .error e)) ∨
        connectPrepared path files = (later, .ok (connectionTo path files .writing))) := by
  simp only [connectPrepared]
  rcases connect_serving hpath .writing h with ⟨e, he⟩ | hc
  · exact ⟨files, Tidied.refl _ files, Or.inl ⟨e, by rw [he]⟩⟩
  · obtain ⟨later, hprepare, htidied⟩ :=
      prepare_serving (connectionTo path files .writing) hfrozen h
    exact ⟨later, htidied, Or.inr (by simp [hc, hprepare])⟩

lemma openWritable_serving (hpath : OnDisk path) (hfrozen : (locatorOf path).isFrozen = false)
    (hparent : ParentMade path files) (h : Serving (databasePlace path files) database files) :
    ∃ later, Tidied (databasePlace path files) files later ∧
      ((∃ e, openWritable path files = (later, .error e)) ∨
        openWritable path files = (later, .ok (connectionTo path files .writing))) := by
  have hopen : openWritable path files = connectPrepared path files := by
    simp only [openWritable]
    cases hp : Files.parent? path with
    | none => rfl
    | some parent =>
      simp [Files.makeDirectories_of_isDirectory parent (hparent parent hp)]
  rw [hopen]
  exact connectPrepared_serving hpath hfrozen h

lemma connectPrepared_vacant (hpath : OnDisk path)
    (h : Vacant (databasePlace path files) files) :
    (∃ later e, connectPrepared path files = (later, .error e) ∧
        Vacant (databasePlace path files) later ∧ later.current = files.current) ∨
      ∃ later, connectPrepared path files = (later, .ok (connectionTo path files .writing)) ∧
        (locatorOf path).isFrozen = false ∧ Serving (databasePlace path files) {} later ∧
        KeepsDirectories files later := by
  simp only [connectPrepared]
  rcases connect_vacant hpath .writing h with ⟨e, he⟩ | ⟨made, hc, hroot, hvacant, hkeeps⟩
  · exact Or.inl ⟨files, e, by rw [he], h, rfl⟩
  · rcases prepare_vacant (connectionTo path files .writing) hroot
      (connectionTo_apart hpath .writing) hvacant with
      ⟨later, fault, hp, htidied⟩ | ⟨later, hp, hfrozen, hserving, hkeeps'⟩
    · refine Or.inl
        ⟨later, .storage (.migration 1 fault), by simp [hc, hp], hvacant.tidied htidied, ?_⟩
      exact htidied.keeps.current.trans hkeeps.current
    · exact Or.inr ⟨later, by simp [hc, hp], hfrozen, hserving, hkeeps.trans hkeeps'⟩

lemma openWritable_vacant (hpath : OnDisk path) (h : Vacant (databasePlace path files) files) :
    (∃ later e, openWritable path files = (later, .error e) ∧
        Vacant (databasePlace path files) later ∧ later.current = files.current) ∨
      ∃ later, openWritable path files = (later, .ok (connectionTo path files .writing)) ∧
        (locatorOf path).isFrozen = false ∧ Serving (databasePlace path files) {} later ∧
        ParentMade path later ∧ later.current = files.current := by
  simp only [openWritable]
  cases hp : Files.parent? path with
  | none =>
    have hparent : ParentMade path files := fun parent hparent => by simp [hp] at hparent
    rcases connectPrepared_vacant hpath h with he | ⟨later, hc, hfrozen, hserving, hkeeps⟩
    · exact Or.inl he
    · exact Or.inr ⟨later, hc, hfrozen, hserving, hparent.keeps hkeeps, hkeeps.current⟩
  | some parent =>
    have hgrown : Grown files (files.makeDirectories parent).1 := Files.grown_of_makeChain _ files
    have hvacant : Vacant (databasePlace path files) (files.makeDirectories parent).1 :=
        fun database => by
      rcases hgrown.nodes (databasePlace path files) with hn | ⟨-, hn⟩ <;> rw [hn]
      · exact h database
      · simp
    cases hmade : files.makeDirectories parent with
    | mk made fault =>
      rw [hmade] at hgrown hvacant
      cases fault with
      | some fault =>
        exact Or.inl ⟨made, .file parent fault, by simp [hmade], hvacant, hgrown.current⟩
      | none =>
        have hparent : ParentMade path made := fun parent' hparent' => by
          obtain rfl : parent = parent' := by simpa [hp] using hparent'
          exact Files.isDirectory_of_makeChain parent _ made hmade
        have hplace := databasePlace_current hgrown.current path
        simp only [Option.map_some, hmade]
        rcases connectPrepared_vacant hpath (hplace ▸ hvacant) with
          ⟨later, e, he, hv, hcurrent⟩ | ⟨later, hc, hfrozen, hserving, hkeeps⟩
        · exact Or.inl ⟨later, e, he, hplace ▸ hv, hcurrent.trans hgrown.current⟩
        · refine Or.inr ⟨later, ?_, hfrozen, hplace ▸ hserving, hparent.keeps hkeeps,
            hkeeps.current.trans hgrown.current⟩
          rw [hc, connectionTo_current hgrown.current]

lemma openReadable_serving (hpath : OnDisk path)
    (h : Serving (databasePlace path files) database files) :
    (∃ e, openReadable path files = (files, .error e)) ∨
      openReadable path files = (files, .ok (connectionTo path files .reading)) := by
  simp only [openReadable]
  split
  · exact connect_serving hpath .reading h
  · exact Or.inl ⟨_, rfl⟩

lemma openReadable_vacant (hpath : OnDisk path) (h : Vacant (databasePlace path files) files) :
    ∃ later, Vacant (databasePlace path files) later ∧ later.current = files.current ∧
      ((∃ e, openReadable path files = (later, .error e)) ∨
        openReadable path files = (later, .ok (connectionTo path files .reading))) := by
  simp only [openReadable]
  split
  · rcases connect_vacant hpath .reading h with he | ⟨later, hc, -, hvacant, hkeeps⟩
    · exact ⟨files, h, rfl, Or.inl he⟩
    · exact ⟨later, hvacant, hkeeps.current, Or.inr hc⟩
  · exact ⟨files, h, rfl, Or.inl ⟨_, rfl⟩⟩

end Connection

end ContentHub.Store
