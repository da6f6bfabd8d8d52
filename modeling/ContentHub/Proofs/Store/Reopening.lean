import ContentHub.Proofs.Files.Following
import ContentHub.Proofs.Store.Keeping
import Mathlib.Tactic

namespace ContentHub.Store

open Files (KeepsDirectories Reached Grown)

def Fits : Place → List String → Prop
  | here, [] => here ≠ [] ∧ pathSize here ≤ maxDatabasePathSize
  | here, part :: rest =>
    (Files.isIdle part = false → part ≠ ".." →
      pathSize (Files.step here part) ≤ maxDatabasePathSize + 7) ∧ Fits (Files.step here part) rest

def startOf (path : String) (files : Files) : Place :=
  if Files.isAbsolute path then [] else files.current

structure Made (path : String) (files : Files) : Prop where
  frozen : (locatorOf path).isFrozen = false
  parent : ParentMade path files
  room : ((journalPlace (databasePlace path files)).getLastD "").utf8ByteSize ≤ Files.maxNameSize
  fits : Fits (startOf (locatorOf path).name files) (Files.pathParts (locatorOf path).name)

/-- A path that is the name of a file for the engine and for the tree of files alike. -/
structure Plain (path : String) : Prop where
  named : Locator.ofPath path = .ok { name := path }
  notInMemory : isMemoryPath path = false
  notRemote : isRemotePath path = false
  filled : path.isEmpty = false
  noNul : '\x00' ∉ path.toList
  short : path.utf8ByteSize ≤ Files.maxPathSize
  ending : ∀ last ∈ (Files.pathParts path).getLast?, Files.isIdle last = false

structure Grounded (files : Files) : Prop where
  reached : files.Reached files.current
  directory : files.node? files.current = some .directory

def withParent (path : String) (files : Files) : Files :=
  match Files.parent? path with
  | some parent => (files.makeDirectories parent).1
  | none => files

structure Ready (path : String) (files : Files) : Prop where
  plain : Plain path
  grounded : Grounded files
  database : ∃ database, files.node? (databasePlace path files) = some (.database database)
  journal : files.node? (journalPlace (databasePlace path files)) ≠ some .directory
  log : files.node? (logPlace (databasePlace path files)) ≠ some .directory

structure Makeable (path : String) (files : Files) : Prop where
  plain : Plain path
  grounded : Grounded files
  parent : ∀ parent, Files.parent? path = some parent → (files.makeDirectories parent).2 = none
  room : ((journalPlace (databasePlace path files)).getLastD "").utf8ByteSize ≤ Files.maxNameSize
  fits : Fits (startOf path files) (Files.pathParts path)
  blank : isBlank (withParent path files) (databasePlace path files) = true
  journal : (withParent path files).node? (journalPlace (databasePlace path files)) ≠
    some .directory
  log : (withParent path files).node? (logPlace (databasePlace path files)) ≠ some .directory

variable {path : String} {files later : Files} {database : Database}

lemma fits_of_descend {here place : Place} {parts : List String}
    (h : descend files here parts = some place) : Fits here parts := by
  induction parts generalizing here with
  | nil =>
    simp only [descend] at h
    split at h
    · cases h
    · next hroom =>
      obtain ⟨hroot, hsize⟩ := not_or.mp hroom
      exact ⟨hroot, by omega⟩
  | cons part rest ih =>
    simp only [descend] at h
    split at h
    · next hback =>
      refine ⟨fun hidle hpart => ?_, ih h⟩
      exact absurd hback (by simp [hidle, hpart])
    · split at h
      · cases h
      · next hsize =>
        have hrest : descend files (Files.step here part) rest = some place := by
          split at h
          · exact h
          · exact h
          · cases h
        exact ⟨fun _ _ => by omega, ih hrest⟩

lemma descend_of_fits {here place : Place} {parts : List String} (hreached : files.Reached here)
    (hwalk : files.walk here parts = .ok place) (hfits : Fits here parts) :
    descend files here parts = some place := by
  induction parts generalizing here with
  | nil =>
    obtain rfl := Except.ok.inj hwalk
    obtain ⟨hroot, hsize⟩ := hfits
    have hroom : ¬(here = [] ∨ maxDatabasePathSize < pathSize here) := by
      rw [not_or]
      exact ⟨hroot, by omega⟩
    rw [descend, if_neg hroom]
  | cons part rest ih =>
    obtain ⟨hdirectory, hsize, hrest⟩ := Files.walk_cons_eq_ok hwalk
    obtain ⟨hpart, hlater⟩ := hfits
    have hnext := hreached.step hdirectory hsize
    simp only [descend]
    split
    · exact ih hnext hrest hlater
    · next hback =>
      obtain ⟨hidle, hup⟩ := not_or.mp hback
      have hroom := hpart (by simpa using hidle) hup
      rw [if_neg (by omega), hnext.walk]
      exact ih hnext hrest hlater

lemma startOf_current (hcurrent : later.current = files.current) (path : String) :
    startOf path later = startOf path files := by
  rw [startOf, startOf, hcurrent]

lemma Made.keeps (h : Made path files) (hkeeps : KeepsDirectories files later) :
    Made path later where
  frozen := h.frozen
  parent := h.parent.keeps hkeeps
  room := by
    rw [databasePlace_current hkeeps.current]
    exact h.room
  fits := by
    rw [startOf_current hkeeps.current]
    exact h.fits

lemma locatorOf_named (h : Locator.ofPath path = .ok { name := path }) :
    locatorOf path = { name := path } := by
  rw [locatorOf, h]
  rfl

lemma Plain.locator (h : Plain path) : locatorOf path = { name := path } :=
  locatorOf_named h.named

lemma Plain.onDisk (h : Plain path) : OnDisk path := by
  refine ⟨h.notInMemory, ?_⟩
  have hfilled : path ≠ "" := by
    rintro rfl
    cases h.filled
  have hnamed : path ≠ ":memory:" := by
    rintro rfl
    exact absurd h.notInMemory (by decide)
  rw [h.locator]
  simp [Locator.isPrivate, hfilled, hnamed]

lemma Plain.databasePlace (h : Plain path) (files : Files) :
    databasePlace path files = files.placeOf path := by
  rw [Store.databasePlace, h.locator]

lemma walk_of_made (hplain : Plain path) (hmade : Made path files) (hgrounded : Grounded files) :
    files.walk (startOf path files) (Files.pathParts path) =
      .ok (databasePlace path files) := by
  have hne : Files.pathParts path ≠ [] := by
    simpa [Files.pathParts] using Files.pieces_ne_nil '/' path.toList
  have hparts := List.dropLast_append_getLast hne
  generalize (Files.pathParts path).dropLast = above at hparts
  generalize (Files.pathParts path).getLast hne = last at hparts
  have hlast : Files.isIdle last = false := by
    apply hplain.ending
    rw [← hparts, List.getLast?_concat]
    rfl
  obtain ⟨directory, hwalk, hdirectory⟩ :=
    Files.walk_above hparts.symm hlast hmade.parent hgrounded.directory
  have hplace : databasePlace path files = Files.step directory last := by
    rw [hplain.databasePlace, Files.placeOf, ← hparts, List.foldl_append,
      ← Files.walk_eq_ok hwalk]
    rfl
  -- there was room for the name of the journal, which is longer
  have hsize : last.utf8ByteSize ≤ Files.maxNameSize := by
    by_cases hback : last = ".."
    · rw [hback]
      decide
    · have hroom := hmade.room
      rw [hplace] at hroom
      simp only [Files.step, hlast, hback, journalPlace, beside, Bool.false_eq_true, if_false,
        List.getLastD_concat, String.utf8ByteSize_append] at hroom
      omega
  rw [hplace, ← hparts, Files.walk_append, startOf, hwalk]
  exact Files.walk_cons [] hdirectory hsize

lemma find_of_made (hplain : Plain path) (hmade : Made path files) (hgrounded : Grounded files)
    {node : Node} (h : files.node? (databasePlace path files) = some node) :
    files.find path = .ok node := by
  have hlocate : files.locate path = .ok (databasePlace path files) := by
    rw [Files.locate_eq_ok_iff]
    exact ⟨hplain.filled, hplain.noNul, hplain.short, walk_of_made hplain hmade hgrounded⟩
  simp [Files.find, hlocate, Except.bind, h]

lemma reached_startOf (hgrounded : Grounded files) (path : String) :
    files.Reached (startOf path files) := by
  unfold startOf
  split
  · exact Files.reached_root files
  · exact hgrounded.reached

lemma Grounded.keeps (h : Grounded files) (hkeeps : KeepsDirectories files later) :
    Grounded later := by
  constructor
  · rw [hkeeps.current]
    exact h.reached.keeps hkeeps
  · rw [hkeeps.current]
    exact hkeeps.directories _ h.directory

lemma grown_withParent (path : String) (files : Files) : Grown files (withParent path files) := by
  unfold withParent
  split
  · exact Files.grown_of_makeChain _ files
  · exact Grown.refl files

lemma parentMade_withParent
    (h : ∀ parent, Files.parent? path = some parent → (files.makeDirectories parent).2 = none) :
    ParentMade path (withParent path files) := by
  intro parent hparent
  have hmade := Files.isDirectory_of_makeChain parent (Files.selfAndAncestors parent).tail
    (files.makeDirectories parent).1 (Prod.ext rfl (h parent hparent))
  simpa only [withParent, hparent] using hmade

lemma Makeable.made (h : Makeable path files) : Made path (withParent path files) where
  frozen := by
    rw [h.plain.locator]
    rfl
  parent := parentMade_withParent h.parent
  room := by
    rw [databasePlace_current (grown_withParent path files).current]
    exact h.room
  fits := by
    rw [startOf_current (grown_withParent path files).current, h.plain.locator]
    exact h.fits

namespace Connection

lemma openWritable_eq (h : ∀ parent, Files.parent? path = some parent →
    (files.makeDirectories parent).2 = none) :
    openWritable path files = connectPrepared path (withParent path files) := by
  simp only [openWritable, withParent]
  cases hparent : Files.parent? path with
  | none => rfl
  | some parent =>
    have hmade : files.makeDirectories parent = ((files.makeDirectories parent).1, none) :=
      Prod.ext rfl (h parent hparent)
    rw [Option.map_some, hmade]

lemma fits_of_connect (hpath : OnDisk path) {access : Access} {connection : Connection}
    (h : connect access path files = (later, .ok connection)) :
    Fits (startOf (locatorOf path).name files) (Files.pathParts (locatorOf path).name) := by
  simp only [connect, hpath.notInMemory, Bool.not_false, Bool.true_and, Bool.false_eq_true,
    if_false] at h
  split at h
  · cases h
  · split at h
    · cases h
    · next locator hlocator =>
      have hname : locatorOf path = locator := by simp [locatorOf, hlocator, Except.toOption]
      rw [if_neg (by simp [← hname, hpath.notPrivate])] at h
      cases hplace : enginePlace? files locator.name with
      | none => simp [attach, hplace] at h
      | some place =>
        rw [hname]
        exact fits_of_descend hplace

lemma fits_of_openWritable (hpath : OnDisk path) {connection : Connection}
    (h : openWritable path files = (later, .ok connection)) :
    Fits (startOf (locatorOf path).name files) (Files.pathParts (locatorOf path).name) := by
  have hprepared : ∀ made : Files, connectPrepared path made = (later, .ok connection) →
      Fits (startOf (locatorOf path).name made) (Files.pathParts (locatorOf path).name) := by
    intro made hmade
    simp only [connectPrepared] at hmade
    cases hconnect : connect .writing path made with
    | mk connected result =>
      cases result with
      | error e => simp [hconnect] at hmade
      | ok _ => exact fits_of_connect hpath hconnect
  simp only [openWritable] at h
  cases hparent : Files.parent? path with
  | none =>
    rw [hparent] at h
    exact hprepared files h
  | some parent =>
    have hgrown : Files.Grown files (files.makeDirectories parent).1 :=
      Files.grown_of_makeChain _ files
    rw [hparent, Option.map_some] at h
    cases hmade : files.makeDirectories parent with
    | mk made fault =>
      rw [hmade] at h hgrown
      cases fault with
      | some fault => cases h
      | none =>
        rw [← startOf_current hgrown.current]
        exact hprepared made h

lemma openWith_vacant (hpath : OnDisk path) (access : Access)
    (h : Vacant (databasePlace path files) files) :
    ∃ later, later.current = files.current ∧
      (Vacant (databasePlace path files) later ∧
          ((∃ e, openWith access path files = (later, .error e)) ∨
            openWith access path files = (later, .ok (connectionTo path files access))) ∨
        openWith access path files = (later, .ok (connectionTo path files access)) ∧
          later.node? (databasePlace path files) = some (.database {}) ∧ Made path later) := by
  cases access with
  | reading =>
    obtain ⟨later, hvacant, hcurrent, hopen⟩ := openReadable_vacant hpath h
    exact ⟨later, hcurrent, Or.inl ⟨hvacant, hopen⟩⟩
  | writing =>
    rcases openWritable_vacant hpath h with ⟨later, e, hopen, hvacant, hcurrent⟩ |
      ⟨later, hopen, hfrozen, hserving, hparent, hcurrent⟩
    · exact ⟨later, hcurrent, Or.inl ⟨hvacant, Or.inl ⟨e, hopen⟩⟩⟩
    · refine ⟨later, hcurrent, Or.inr ⟨hopen, hserving.kept, hfrozen, hparent, ?_, ?_⟩⟩
      · rw [databasePlace_current hcurrent]
        exact hserving.room
      · rw [startOf_current hcurrent]
        exact fits_of_openWritable hpath hopen

lemma enginePlace?_plain (hplain : Plain path) (hmade : Made path files)
    (hgrounded : Grounded files) : enginePlace? files path = some (databasePlace path files) := by
  have hfits := hmade.fits
  rw [hplain.locator] at hfits
  exact descend_of_fits (reached_startOf hgrounded path) (walk_of_made hplain hmade hgrounded)
    hfits

lemma connect_attached (hplain : Plain path) (access : Access)
    (h : attach { name := path } files = .ok (databasePlace path files, later)) :
    connect access path files = (later, .ok (connectionTo path files access)) := by
  have hprivate := hplain.onDisk.notPrivate
  rw [hplain.locator] at hprivate
  simp [connect, hplain.notInMemory, hplain.notRemote, hplain.named, hprivate, h, connectionTo,
    hplain.locator]

lemma connect_plain (hplain : Plain path) (hmade : Made path files) (hgrounded : Grounded files)
    (access : Access) (h : files.node? (databasePlace path files) = some (.database database)) :
    connect access path files = (files, .ok (connectionTo path files access)) := by
  apply connect_attached hplain
  simp [attach, enginePlace?_plain hplain hmade hgrounded, h]

lemma connect_blank (hplain : Plain path) (hmade : Made path files) (hgrounded : Grounded files)
    (hblank : isBlank files (databasePlace path files) = true) :
    ∃ later, connect .writing path files = (later, .ok (connectionTo path files .writing)) ∧
      isBlank later (databasePlace path files) = true ∧
      ∀ other, other ≠ databasePlace path files → later.node? other = files.node? other := by
  have hplace := enginePlace?_plain hplain hmade hgrounded
  have hreached := (reached_startOf hgrounded path).of_walk (walk_of_made hplain hmade hgrounded)
  have hroot : databasePlace path files ≠ [] := by
    intro hroot
    simp [isBlank, Files.node?, hroot] at hblank
  cases hnode : files.node? (databasePlace path files) with
  | none =>
    refine ⟨files.put (databasePlace path files) (.text ""), connect_attached hplain _ ?_, ?_,
      fun other hne => Files.node?_put_of_ne _ _ _ _ hne⟩
    · simp [attach, hplace, hnode, hreached.holder hroot]
    · simp [isBlank, Files.node?_put_self _ _ _ hroot]
  | some node =>
    refine ⟨files, connect_attached hplain _ ?_, hblank, fun _ _ => rfl⟩
    cases node with
    | directory => simp [isBlank, hnode] at hblank
    | text | binary | database => simp [attach, hplace, hnode]

lemma openWritable_makeable (h : Makeable path files) :
    ∃ later, openWritable path files = (later, .ok (connectionTo path files .writing)) ∧
      Serving (databasePlace path files) {} later := by
  have hgrown := grown_withParent path files
  have hplace := databasePlace_current hgrown.current path
  have hblank := h.blank
  have hjournal := h.journal
  have hlog := h.log
  have hmade := h.made
  rw [openWritable_eq h.parent, ← connectionTo_current hgrown.current]
  rw [← hplace] at hblank hjournal hlog ⊢
  obtain ⟨connected, hconnect, hstill, hothers⟩ := connect_blank h.plain hmade
    (h.grounded.keeps hgrown.keepsDirectories) hblank
  rw [← hothers _ (journalPlace_ne _)] at hjournal
  rw [← hothers _ (logPlace_ne _)] at hlog
  have hapart : (locatorOf path).immutable = false := by rw [h.plain.locator]
  obtain ⟨later, hprepare, hserving⟩ := @prepare_clear connected
    (connectionTo path (withParent path files) .writing) hmade.frozen hapart hstill hjournal hlog
    hmade.room
  exact ⟨later, by simp [connectPrepared, hconnect, hprepare], hserving⟩

lemma openWith_plain (hplain : Plain path) (hmade : Made path files) (hgrounded : Grounded files)
    (access : Access) (h : Serving (databasePlace path files) database files) :
    ∃ later, Tidied (databasePlace path files) files later ∧
      openWith access path files = (later, .ok (connectionTo path files access)) := by
  have hconnect := fun access => connect_plain hplain hmade hgrounded access h.kept
  cases access with
  | reading =>
    have hcontains : files.contains path = true := by
      rw [Files.contains, find_of_made hplain hmade hgrounded h.kept]
      rfl
    exact ⟨files, Tidied.refl _ files, by simp [openWith, openReadable, hcontains, hconnect]⟩
  | writing =>
    obtain ⟨later, hprepare, htidied⟩ :=
      prepare_serving (connectionTo path files .writing) hmade.frozen h
    have hprepared : connectPrepared path files =
        (later, .ok (connectionTo path files .writing)) := by
      simp [connectPrepared, hconnect, hprepare]
    refine ⟨later, htidied, ?_⟩
    simp only [openWith, openWritable]
    cases hparent : Files.parent? path with
    | none => exact hprepared
    | some parent =>
      simp [Files.makeDirectories_of_isDirectory parent (hmade.parent parent hparent), hprepared]

end Connection

end ContentHub.Store
