import ContentHub.Proofs.Except
import ContentHub.Proofs.Store.Reopening
import Mathlib.Tactic

namespace ContentHub.Store

def rowsAt (place : Place) (files : Files) : List Row :=
  match files.node? place with
  | some (.database database) => database.rows
  | _ => []

def isPrivatePath (path : String) : Bool :=
  isMemoryPath path || (locatorOf path).isPrivate

/-- The rows that a path leads to. A database that is in no file starts without any. -/
def rowsBehind (path : String) (files : Files) : List Row :=
  if isPrivatePath path then [] else rowsAt (databasePlace path files) files

variable {path : String} {place : Place} {files made later opened : Files} {database : Database}

lemma rowsAt_of_node? (h : files.node? place = some (.database database)) :
    rowsAt place files = database.rows := by
  rw [rowsAt, h]

lemma rowsAt_vacant (h : Vacant place files) : rowsAt place files = [] := by
  rw [rowsAt]
  split
  · next database hdatabase => exact absurd hdatabase (h database)
  · rfl

lemma rowsAt_congr (h : later.node? place = files.node? place) :
    rowsAt place later = rowsAt place files := by
  rw [rowsAt, rowsAt, h]

lemma onDisk_of_isPrivatePath (h : isPrivatePath path = false) : OnDisk path := by
  obtain ⟨hmemory, hprivate⟩ := Bool.or_eq_false_iff.mp h
  exact ⟨hmemory, hprivate⟩

lemma serving_of_tidied (h : Tidied place files made) (hserving : Serving place database made) :
    Serving place database files where
  kept := h.kept ▸ hserving.kept
  journal hdirectory := hserving.journal (h.keeps.directories _ hdirectory)
  log hdirectory := hserving.log (h.keeps.directories _ hdirectory)
  room := hserving.room

namespace Connection

def Writable (connection : Connection) (files : Files) : Prop :=
  ∃ id stamp document, (connection.insert id stamp document files).2 = .ok ()

/-- A database that is there, and can be written where it is. -/
structure Accepts (connection : Connection) (database : Database) (files : Files) : Prop where
  access : connection.access = .writing
  thawed : connection.frozen = false
  kept : files.node? connection.place = some (.database database)
  clear : connection.apart = false → Serving connection.place database files

variable {α : Type} {connection : Connection} {edit : Database → Except Error (α × Database)}
  {answer : α} {written : Database} {e : Error} {id stamp : String} {document : Json}
  {provider : Provider}

lemma Accepts.tidied (h : Accepts connection database files)
    (ht : Tidied connection.place files later) : Accepts connection database later where
  access := h.access
  thawed := h.thawed
  kept := ht.kept.trans h.kept
  clear hapart := (h.clear hapart).tidied ht

lemma Accepts.reads (h : Accepts connection database files) :
    ∃ later, connection.database files = (later, .ok database) ∧
      Accepts connection database later := by
  have hsettled : ∃ later, connection.settled files = (later, .ok ()) ∧
      Tidied connection.place files later := by
    cases hapart : connection.apart with
    | true => exact ⟨files, by rw [settled, if_pos hapart], Tidied.refl _ files⟩
    | false => exact settled_serving h.thawed (h.clear hapart)
  obtain ⟨later, hsettled, htidied⟩ := hsettled
  have hlater := h.tidied htidied
  refine ⟨later, ?_, hlater⟩
  simp [Connection.database, hsettled, read?, hlater.kept]

lemma Accepts.save (h : Accepts connection database files) (written : Database) :
    ∃ later, connection.save written files = .ok later ∧ Accepts connection written later := by
  have hplace := ne_nil_of_database h.kept
  cases hapart : connection.apart with
  | true =>
    -- nothing is looked for beside the database, so nothing can be in the way
    refine ⟨files.put connection.place (.database written), ?_, h.access, h.thawed,
      Files.node?_put_self _ _ _ hplace, fun hbeside => ?_⟩
    · simp [Connection.save, h.thawed, hapart]
    · rw [hapart] at hbeside
      cases hbeside
  | false =>
    have hserving := h.clear hapart
    obtain ⟨later, hsave⟩ := save_serving written h.thawed hserving
    obtain ⟨-, hlater, -⟩ := serving_of_save written hplace (by simp [h.kept]) hserving.log
      (by simp [hapart]) hsave
    exact ⟨later, hsave, h.access, h.thawed, hlater.kept, fun _ => hlater⟩

lemma Accepts.change_ok (h : Accepts connection database files)
    (hedit : edit database = .ok (answer, written)) :
    ∃ later, connection.change edit files = (later, .ok answer) ∧
      Accepts connection written later := by
  obtain ⟨made, hdatabase, hmade⟩ := h.reads
  obtain ⟨later, hsave, hlater⟩ := hmade.save written
  refine ⟨later, ?_, hlater⟩
  simp [change, checkWritable, h.access, hdatabase, hedit, hsave]

lemma Accepts.change_error (h : Accepts connection database files)
    (hedit : edit database = .error e) :
    ∃ later, connection.change edit files = (later, .error e) ∧
      Accepts connection database later := by
  obtain ⟨later, hdatabase, hlater⟩ := h.reads
  refine ⟨later, ?_, hlater⟩
  simp [change, checkWritable, h.access, hdatabase, hedit]

lemma database_eq_ok (h : connection.database files = (made, .ok database)) :
    connection.settled files = (made, .ok ()) ∧
      made.node? connection.place = some (.database database) := by
  simp only [Connection.database] at h
  split at h
  · cases h
  · next tidy hsettled =>
    split at h
    · cases h
    · cases h
    · next found hread =>
      obtain ⟨rfl, hfound⟩ := Prod.mk.inj h
      obtain rfl := Except.ok.inj hfound
      exact ⟨hsettled, read?_eq_some hread⟩

lemma change_eq_ok (h : connection.change edit files = (later, .ok answer)) :
    connection.access = .writing ∧ ∃ made database written,
      connection.database files = (made, .ok database) ∧
        connection.save written made = .ok later := by
  simp only [change, checkWritable] at h
  cases haccess : connection.access with
  | reading =>
    rw [haccess] at h
    cases h
  | writing =>
    rw [haccess] at h
    refine ⟨rfl, ?_⟩
    split at h
    · cases h
    · split at h
      · cases h
      · next made database hdatabase =>
        split at h
        · cases h
        · next written _ =>
          split at h
          · cases h
          · next hsave =>
            obtain ⟨rfl, -⟩ := Prod.mk.inj h
            exact ⟨made, database, written, hdatabase, hsave⟩

lemma accepts_of_change (h : connection.change edit files = (later, .ok answer)) :
    ∃ database, Accepts connection database files := by
  obtain ⟨haccess, made, database, written, hdatabase, hsave⟩ := change_eq_ok h
  obtain ⟨hsettled, hnode⟩ := database_eq_ok hdatabase
  have htidied := settled_tidied connection files
  rw [hsettled] at htidied
  obtain ⟨hfrozen, hsaved⟩ := save_cases hsave
  refine ⟨database, haccess, hfrozen, htidied.kept ▸ hnode, fun hapart => ?_⟩
  rw [hapart] at hsaved
  rw [settled, hapart] at hsettled
  -- it was written with a journal beside it, so the way was clear after settling
  obtain ⟨hbeside, -⟩ | ⟨-, hroom, hjournal, -⟩ := hsaved
  · cases hbeside
  · exact serving_of_tidied htidied ⟨hnode, hjournal, settle_log _ hsettled, hroom⟩

lemma Accepts.insert_ok (h : Accepts connection database files) (id stamp : String)
    (hprovider : Provider.ofDocument document = .ok provider) :
    ∃ later, connection.insert id stamp document files = (later, .ok ()) ∧
      Accepts connection ⟨database.rows ++ [⟨id, provider.name, document.print, stamp⟩]⟩ later := by
  apply h.change_ok
  simp [Database.insert, hprovider, Except.map]

lemma Accepts.insert_error (h : Accepts connection database files) (id stamp : String)
    (hrefused : Provider.ofDocument document = .error e) :
    ∃ later, connection.insert id stamp document files = (later, .error e) ∧
      Accepts connection database later := by
  apply h.change_error
  simp [Database.insert, hrefused, Except.map]

lemma Accepts.erase_ok (h : Accepts connection database files) (id : String) :
    ∃ later, connection.erase id files = (later, .ok (database.row? id).isSome) ∧
      Accepts connection (database.erase id) later :=
  h.change_ok rfl

lemma writable_iff : Writable connection files ↔ ∃ database, Accepts connection database files := by
  constructor
  · rintro ⟨id, stamp, document, hinsert⟩
    exact accepts_of_change (Prod.ext rfl hinsert)
  · rintro ⟨database, h⟩
    obtain ⟨provider, hprovider⟩ : ∃ provider,
        Provider.ofDocument (.object [("name", .string "")]) = .ok provider := ⟨_, rfl⟩
    obtain ⟨later, hinsert, -⟩ := h.insert_ok "" "" hprovider
    exact ⟨"", "", _, congrArg Prod.snd hinsert⟩

lemma writable_of_insert (h : connection.insert id stamp document files = (later, .ok ())) :
    Writable connection later := by
  obtain ⟨database, haccepts⟩ := accepts_of_change h
  cases hprovider : Provider.ofDocument document with
  | error e =>
    obtain ⟨_, hrefused, -⟩ := haccepts.insert_error id stamp hprovider
    cases h.symm.trans hrefused
  | ok provider =>
    obtain ⟨made, hinserted, hmade⟩ := haccepts.insert_ok id stamp hprovider
    obtain rfl : later = made := congrArg Prod.fst (h.symm.trans hinserted)
    exact writable_iff.mpr ⟨_, hmade⟩

lemma insert_error_reason (h : connection.insert id stamp document files = (later, .error e)) :
    (∃ fault, e = .storage fault) ∨ Provider.ofDocument document = .error e := by
  rcases change_cases connection _ files with ⟨_, _, hchange, -, hreason⟩ | ⟨_, _, _, _, hchange, -⟩
  · obtain ⟨-, hsame⟩ := Prod.mk.inj (h.symm.trans hchange)
    obtain rfl := Except.error.inj hsame
    refine hreason.imp_right ?_
    rintro ⟨database, hedit⟩
    exact error_of_map (error_of_map hedit)
  · cases h.symm.trans hchange

lemma insert_error_cases (h : connection.insert id stamp document files = (later, .error e)) :
    Provider.ofDocument document = .error e ∨
      (∃ fault, e = .storage fault) ∧ ¬Writable connection files := by
  by_cases hwritable : Writable connection files
  · left
    obtain ⟨database, haccepts⟩ := writable_iff.mp hwritable
    cases hprovider : Provider.ofDocument document with
    | error refusal =>
      obtain ⟨_, hrefused, -⟩ := haccepts.insert_error id stamp hprovider
      obtain ⟨-, hsame⟩ := Prod.mk.inj (hrefused.symm.trans h)
      rw [Except.error.inj hsame]
    | ok provider =>
      obtain ⟨_, hinserted, -⟩ := haccepts.insert_ok id stamp hprovider
      cases h.symm.trans hinserted
  · rcases insert_error_reason h with hstorage | hrefused
    · exact Or.inr ⟨hstorage, hwritable⟩
    · exact Or.inl hrefused

lemma connect_private {access : Access}
    (hprivate : isPrivatePath path = true)
    (h : connect access path files = (later, .ok connection)) :
    connection.apart = true ∧ isBlank later connection.place = true := by
  have hfresh : isBlank (files.put unnamedPlace (.text "")) unnamedPlace = true := by
    rw [isBlank, Files.node?_put_self _ _ _ (by decide)]
    rfl
  simp only [connect] at h
  split at h
  · cases h
  · split at h
    · cases h
    · next locator hlocator =>
      have hlocator' : locator.isPrivate = true := by
        split at hlocator
        · obtain rfl := Except.ok.inj hlocator
          rfl
        · next hmemory =>
          simpa [isPrivatePath, hmemory, locatorOf, hlocator, Except.toOption] using hprivate
      rw [if_pos hlocator'] at h
      obtain ⟨rfl, hconnection⟩ := Prod.mk.inj h
      obtain rfl := Except.ok.inj hconnection
      exact ⟨rfl, hfresh⟩

lemma prepare_blank (hapart : connection.apart = true)
    (hblank : isBlank files connection.place = true)
    (h : connection.prepare files = (later, .ok ())) :
    rowsAt connection.place later = [] := by
  have hplace : connection.place ≠ [] := by
    intro hroot
    rw [hroot] at hblank
    cases hblank
  have hread : connection.read? files = .ok none := by
    rw [read?, if_pos hblank]
    split
    · next hdatabase => simp [isBlank, hdatabase] at hblank
    · rfl
  simp only [prepare, settled, hapart, if_true, hread, Connection.save] at h
  cases hfrozen : connection.frozen with
  | true => simp [hfrozen] at h
  | false =>
    simp only [hfrozen, Bool.false_eq_true, if_false] at h
    obtain ⟨rfl, -⟩ := Prod.mk.inj h
    exact rowsAt_of_node? (Files.node?_put_self _ _ _ hplace)

lemma connectPrepared_private
    (hprivate : isPrivatePath path = true)
    (h : connectPrepared path files = (later, .ok connection)) :
    rowsAt connection.place later = [] := by
  simp only [connectPrepared] at h
  split at h
  · cases h
  · next hconnect =>
    obtain ⟨hapart, hblank⟩ := connect_private hprivate hconnect
    split at h
    · cases h
    · next hprepare =>
      obtain ⟨rfl, hconnection⟩ := Prod.mk.inj h
      obtain rfl := Except.ok.inj hconnection
      exact prepare_blank hapart hblank hprepare

lemma openWith_private {access : Access}
    (hprivate : isPrivatePath path = true)
    (hopen : openWith access path files = (opened, .ok connection))
    (h : Accepts connection database opened) : rowsAt connection.place opened = [] := by
  cases access with
  | reading =>
    simp only [openWith, openReadable] at hopen
    split at hopen
    · obtain ⟨-, hblank⟩ := connect_private hprivate hopen
      simp [isBlank, h.kept] at hblank
    · cases hopen
  | writing =>
    simp only [openWith, openWritable] at hopen
    split at hopen
    · cases hopen
    · exact connectPrepared_private hprivate hopen
    · exact connectPrepared_private hprivate hopen

lemma openWith_onDisk (hpath : OnDisk path) {access : Access}
    (hopen : openWith access path files = (opened, .ok connection)) :
    rowsAt connection.place opened = rowsAt (databasePlace path files) files := by
  by_cases hvacant : Vacant (databasePlace path files) files
  · -- opening leaves the place without a database, or makes an empty one
    rw [rowsAt_vacant hvacant]
    obtain ⟨later, -, ⟨hlater, ⟨e, he⟩ | hsame⟩ | ⟨hsame, hmade, -⟩⟩ :=
      openWith_vacant hpath access hvacant
    · cases he.symm.trans hopen
    · cases hsame.symm.trans hopen
      exact rowsAt_vacant hlater
    · cases hsame.symm.trans hopen
      exact rowsAt_of_node? hmade
  · obtain ⟨found, hfound⟩ : ∃ found, files.node? (databasePlace path files) =
        some (.database found) := by simpa [Vacant] using hvacant
    obtain ⟨later, hlater, ⟨e, he⟩ | hsame⟩ := openWith_database hpath access hfound
    · cases he.symm.trans hopen
    · cases hsame.symm.trans hopen
      exact rowsAt_congr hlater.kept

lemma rowsAt_openWith {access : Access}
    (hopen : openWith access path files = (opened, .ok connection))
    (h : Accepts connection database opened) :
    rowsAt connection.place opened = rowsBehind path files := by
  cases hprivate : isPrivatePath path with
  | true => rw [rowsBehind, if_pos hprivate, openWith_private hprivate hopen h]
  | false =>
    have hpath := onDisk_of_isPrivatePath hprivate
    rw [rowsBehind, hprivate, if_neg Bool.false_ne_true, openWith_onDisk hpath hopen]

end Connection

end ContentHub.Store
