import ContentHub.Proofs.Command.Deposits
import ContentHub.Proofs.Command.Opening
import ContentHub.Proofs.Store.Reopening
import Mathlib.Tactic

/-!
Commands one after another on one database. Each of them opens the database for itself, and between
them anything may happen to other files. `Held` ties the tree of files to the deposits that the
commands and their outcomes account for; every command keeps it.
-/

namespace ContentHub.Command

open Store
open Files (KeepsDirectories)

/-- A command that uses no other database than that of a path, which is not its configuration. -/
structure Aimed (path : String) (environment : Environment) (arguments : List String)
    (files : Files) : Prop where
  database : ∀ request config, Issued environment arguments files request config →
    usesDatabase request.task = true →
      ∀ meant, pathMeant environment config request = .ok meant → meant = path
  config : ∀ file, Config.filePath environment.home = .ok file →
    files.placeOf file ≠ databasePlace path files

structure Fresh (environment : Environment) (minted : ℕ) (deposits : List Deposit) : Prop where
  unused : ∀ n ≥ minted, ∀ deposit ∈ deposits, deposit.id ≠ (environment.fresh n).1
  apart : ∀ m ≥ minted, ∀ n ≥ minted, (environment.fresh m).1 = (environment.fresh n).1 → m = n

def filesOpened (path : String) (config : Config) (files : Files) : Files :=
  (Connection.openWith (accessOf config) path files).1

/-- What a task makes of the deposits, by its outcome and by how many ids it gave. -/
def afterTask (environment : Environment) (task : Task) (files : Files) (world : World)
    (result : Outcome × World) (deposits : List Deposit) : List Deposit :=
  match task with
  | .importDocuments file =>
    deposits ++ deposited environment world.minted
      ((documentsIn files file).take (result.2.minted - world.minted))
  | .deleteDocument id =>
    match result.1 with
    | .success => withoutId id deposits
    | _ => deposits
  | _ => deposits

def after (path : String) (environment : Environment) (arguments : List String) (world : World)
    (deposits : List Deposit) : List Deposit :=
  match parseArguments arguments, Config.load environment.home world.files with
  | .ok request, .ok config =>
    afterTask environment request.task (filesOpened path config world.files) world
      (run environment arguments world) deposits
  | _, _ => deposits

/-- The worlds that commands lead to from a tree without the database, and the deposits they account
for. -/
inductive Course (path : String) (start : Files) : World → List Deposit → Prop
  | start (world : World) (hfiles : world.files = start) (hpath : OnDisk path)
      (hvacant : Vacant (databasePlace path start) start) : Course path start world []
  | elsewhere {world : World} {deposits : List Deposit} (h : Course path start world deposits)
      (later : World)
      (hfiles : Undisturbed (databasePlace path start) world.files later.files) :
      Course path start later deposits
  | command {world : World} {deposits : List Deposit} (h : Course path start world deposits)
      (environment : Environment) (arguments : List String)
      (haimed : Aimed path environment arguments world.files)
      (hfresh : Fresh environment world.minted deposits) :
      Course path start (run environment arguments world).2
        (after path environment arguments world deposits)

structure Held (path : String) (start files : Files) (deposits : List Deposit) : Prop where
  current : files.current = start.current
  keeps : Keeps (databasePlace path start) files deposits
  made : ∀ database, files.node? (databasePlace path start) = some (.database database) →
    Made path files

variable {path : String} {start files later : Files} {world : World}
  {deposits moved : List Deposit} {environment : Environment} {arguments : List String}
  {request : Request} {config : Config} {task : Task} {result : Outcome × World}

lemma Held.moves (h : Held path start files deposits)
    (hmoves : Moves (databasePlace path start) files later deposits moved) :
    Held path start later moved where
  current := hmoves.keeps.current.trans h.current
  keeps := h.keeps.moves hmoves
  made database hdatabase := by
    rcases h.keeps with hstored | ⟨hvacant, -⟩
    · exact (h.made _ hstored).keeps hmoves.keeps
    · exact absurd hdatabase ((hmoves.vacant hvacant).1 database)

lemma Held.undisturbed (h : Held path start files deposits)
    (hfiles : Undisturbed (databasePlace path start) files later) :
    Held path start later deposits :=
  h.moves (moves_of_undisturbed hfiles)

lemma held_openWith (hpath : OnDisk path) (h : Held path start files deposits) (access : Access) :
    ∃ later, Held path start later deposits ∧
      ((∃ e, Connection.openWith access path files = (later, .error e)) ∨
        Connection.openWith access path files =
          (later, .ok (connectionTo path start access))) := by
  have hplace := databasePlace_current h.current path
  have hkeeps := h.keeps
  rw [← hplace] at hkeeps
  rw [← connectionTo_current h.current]
  -- a database that is there stays; if there is none, opening to write may make an empty one
  rcases hkeeps with hstored | ⟨hvacant, rfl⟩
  · obtain ⟨later, hlater, hopen⟩ := Connection.openWith_database hpath access hstored
    exact ⟨later, h.undisturbed (hplace ▸ hlater), hopen⟩
  · obtain ⟨later, hcurrent, ⟨hlater, hopen⟩ | ⟨hopen, hmade, hthere⟩⟩ :=
      Connection.openWith_vacant hpath access hvacant
    · rw [hplace] at hlater
      exact ⟨later, ⟨hcurrent.trans h.current, Or.inr ⟨hlater, rfl⟩, fun database hdatabase =>
        absurd hdatabase (hlater database)⟩, hopen⟩
    · rw [hplace] at hmade
      exact ⟨later, ⟨hcurrent.trans h.current, Or.inl hmade, fun _ _ => hthere⟩, Or.inr hopen⟩

inductive Clear (path : String) (config : Config) (files : Files) : Prop
  | there (hready : Ready path files)
  | makes (hmakeable : Makeable path files) (hwriting : config.storage.readOnly = false)

lemma accessOf_readOnly (h : config.storage.readOnly = true) : accessOf config = .reading := by
  rw [accessOf, if_pos h]

lemma accessOf_writing (h : config.storage.readOnly = false) : accessOf config = .writing := by
  rw [accessOf, h, if_neg Bool.false_ne_true]

lemma connects_ready (h : Held path start files deposits) (hready : Ready path files)
    (access : Access) : ∃ later,
      Connection.openWith access path files = (later, .ok (connectionTo path start access)) ∧
        Reaches (connectionTo path start access) later := by
  obtain ⟨database, hdatabase⟩ := hready.database
  have hplace := databasePlace_current h.current path
  have hmade := h.made database (hplace ▸ hdatabase)
  have hserving : Serving (databasePlace path files) database files :=
    ⟨hdatabase, hready.journal, hready.log, hmade.room⟩
  obtain ⟨later, htidied, hopen⟩ := Connection.openWith_plain hready.plain hmade hready.grounded
    access hserving
  rw [connectionTo_current h.current] at hopen
  rw [hplace] at hserving htidied
  exact ⟨later, hopen, hmade.frozen, database, hserving.tidied htidied⟩

lemma connects_makeable (h : Held path start files deposits) (hmakeable : Makeable path files) :
    ∃ later,
      Connection.openWith .writing path files = (later, .ok (connectionTo path start .writing)) ∧
        Reaches (connectionTo path start .writing) later := by
  obtain ⟨later, hopen, hserving⟩ := Connection.openWritable_makeable hmakeable
  rw [connectionTo_current h.current] at hopen
  rw [databasePlace_current h.current] at hserving
  exact ⟨later, hopen, hmakeable.made.frozen, {}, hserving⟩

lemma connects_clear (h : Held path start files deposits) (hclear : Clear path config files) :
    ∃ later, Connection.openWith (accessOf config) path files =
        (later, .ok (connectionTo path start (accessOf config))) ∧
      Reaches (connectionTo path start (accessOf config)) later := by
  cases hclear with
  | there hready => exact connects_ready h hready _
  | makes hmakeable hwriting =>
    rw [accessOf_writing hwriting]
    exact connects_makeable h hmakeable

lemma writable_of_reaches {connection : Connection} (h : Reaches connection files)
    (haccess : connection.access = .writing) : Connection.Writable connection files := by
  obtain ⟨hfrozen, database, hserving⟩ := h
  exact Connection.writable_iff.mpr
    ⟨database, haccess, hfrozen, hserving.kept, fun _ => hserving⟩

lemma moves_init {place : Place} {home : Option String}
    (hne : ∀ file, Config.filePath home = .ok file → files.placeOf file ≠ place) :
    Moves place files (Config.init home files).1 deposits deposits := by
  cases hdirectory : Config.directory home with
  | error e =>
    simpa only [Config.init, hdirectory] using moves_of_undisturbed (Undisturbed.refl place files)
  | ok directory =>
    have hgrown : Files.Grown files (files.makeDirectories directory).1 :=
      Files.grown_of_makeChain _ files
    cases hmade : files.makeDirectories directory with
    | mk made fault =>
      rw [hmade] at hgrown
      -- what was made of the directories stays even if the file cannot be written
      have hmoves : Moves place files made deposits deposits := moves_of_grown hgrown
      cases fault with
      | some fault => simpa only [Config.init, hdirectory, hmade] using hmoves
      | none =>
        cases hwritten : made.writeText (Files.join directory "dcp.toml") (Config.print {}) with
        | error fault => simpa only [Config.init, hdirectory, hmade, hwritten] using hmoves
        | ok written =>
          have hfile : Config.filePath home = .ok (Files.join directory "dcp.toml") := by
            rw [Config.filePath, hdirectory]
            rfl
          have hplace := hne _ hfile
          rw [← placeOf_current hgrown.current] at hplace
          simpa only [Config.init, hdirectory, hmade, hwritten] using
            hmoves.trans (moves_of_undisturbed (undisturbed_writeText hwritten hplace))

lemma run_unissued
    (h : ¬∃ request config, Issued environment arguments world.files request config) :
    (run environment arguments world).1 ≠ .success ∧
      (run environment arguments world).2.files = world.files ∧
      after path environment arguments world deposits = deposits := by
  cases hparsed : parseArguments arguments with
  | error fault => simp [run, after, hparsed]
  | ok request =>
    cases hloaded : Config.load environment.home world.files with
    | ok config => exact absurd ⟨request, config, hparsed, hloaded⟩ h
    | error e => simp [run, after, hparsed, hloaded, run_runRequest]

lemma after_issued (h : Issued environment arguments world.files request config) :
    after path environment arguments world deposits =
      afterTask environment request.task (filesOpened path config world.files) world
        (run environment arguments world) deposits := by
  simp only [after, h.parsed, h.loaded]

inductive Comes (path : String) (start : Files) (environment : Environment) (config : Config)
    (task : Task) (world : World) (deposits : List Deposit) : Outcome × World → Prop
  | unopened (e : Error) (hway : OnTheWay e) (hshut : ¬Clear path config world.files)
      (files : Files) (hheld : Held path start files deposits) :
      Comes path start environment config task world deposits
        (.failure (.hub e), { world with files, output := "" })
  | opened (files : Files)
      (hfiles : files = filesOpened path config world.files)
      (hheld : Held path start files deposits)
      (hreaches : Clear path config world.files →
        Reaches (connectionTo path start (accessOf config)) files) :
      Comes path start environment config task world deposits
        (ended ((actOf environment task (connectionTo path start (accessOf config))).run
          { world with files, output := "" }))

lemma comes_run (hpath : OnDisk path) (h : Held path start world.files deposits)
    (hissued : Issued environment arguments world.files request config)
    (haimed : Aimed path environment arguments world.files)
    (htask : usesDatabase request.task = true) :
    Comes path start environment config request.task world deposits
      (run environment arguments world) := by
  obtain ⟨meant, hmeant⟩ := hissued.pathMeant
  obtain rfl := haimed.database request config hissued htask meant hmeant
  obtain ⟨files, hheld, ⟨e, hopen⟩ | hopen⟩ := held_openWith hpath h (accessOf config)
  · have hshut : ¬Clear meant config world.files := by
      intro hclear
      obtain ⟨later, hopened, -⟩ := connects_clear h hclear
      cases hopen.symm.trans hopened
    rw [run_unopened hissued htask hmeant hopen]
    exact .unopened e (onTheWay_openWith hopen) hshut files hheld
  · have hreaches : Clear meant config world.files →
        Reaches (connectionTo meant start (accessOf config)) files := by
      intro hclear
      obtain ⟨later, hopened, hlater⟩ := connects_clear h hclear
      obtain rfl : files = later := congrArg Prod.fst (hopen.symm.trans hopened)
      exact hlater
    rw [run_opened hissued htask hmeant hopen]
    exact .opened files (by rw [filesOpened, hopen]) hheld hreaches

def MayChange (path : String) (config : Config) (files : Files) : Prop :=
  config.storage.readOnly = false ∧ Clear path config files

inductive Halts (path : String) (config : Config) (files : Files)
    (found : Except Failure (List Json)) (count : ℕ) : Failure → Prop
  | refused (documents : List Json) (document : Json) (e : Error) (hfound : found = .ok documents)
      (hdocument : documents[count]? = some document)
      (hrefused : Provider.ofDocument document = .error e) :
      Halts path config files found count (.hub e)
  | unusable (failure : Failure) (hnone : count = 0) (hfound : found = .error failure) :
      Halts path config files found count failure
  | shut (e : Error) (hway : OnTheWay e) (hnone : count = 0)
      (hshut : ¬MayChange path config files) :
      Halts path config files found count (.hub e)

structure Appends (path : String) (environment : Environment) (config : Config) (file : String)
    (world : World) (count : ℕ) (result : Outcome × World) : Prop where
  atMost : count ≤ (documentsIn (filesOpened path config world.files) file).length
  minted : result.2.minted = world.minted + count
  output : result.2.output = printed ((deposited environment world.minted
    ((documentsIn (filesOpened path config world.files) file).take count)).map Deposit.line)
  accepted : ∀ document ∈ (documentsIn (filesOpened path config world.files) file).take count,
    ∃ provider, Provider.ofDocument document = .ok provider
  ends : result.1 = .success ∧ contents (filesOpened path config world.files) file =
        .ok ((documentsIn (filesOpened path config world.files) file).take count) ∨
      ∃ failure, result.1 = .failure failure ∧
        Halts path config world.files (contents (filesOpened path config world.files) file) count
          failure

lemma mayChange_shut {connection : Connection}
    (hreaches : Clear path config world.files → Reaches connection files)
    (haccess : connection.access = accessOf config)
    (h : ¬Connection.Writable connection files) : ¬MayChange path config world.files := by
  rintro ⟨hwriting, hclear⟩
  rw [accessOf_writing hwriting] at haccess
  exact h (writable_of_reaches (hreaches hclear) haccess)

lemma appends_none {file : String} {e : Failure} (hhalts : Halts path config world.files
      (contents (filesOpened path config world.files) file) 0 e) :
    Appends path environment config file world 0
      (.failure e, { world with files := later, output := "" }) where
  atMost := Nat.zero_le _
  minted := rfl
  output := rfl
  accepted := by simp
  ends := Or.inr ⟨e, rfl, hhalts⟩

lemma halts_of_stops {connection : Connection} {documents : List Json} {count : ℕ}
    {failure : Failure} (haccess : connection.access = accessOf config)
    (hreaches : Clear path config world.files → Reaches connection files)
    (h : Stops connection files documents count failure) :
    Halts path config world.files (.ok documents) count failure := by
  cases h with
  | refused document e hdocument hrefused =>
    exact .refused documents document e rfl hdocument hrefused
  | shut fault hnone hshut =>
    exact .shut _ (.database fault) hnone (mayChange_shut hreaches haccess hshut)

lemma appends_storeAll {connection : Connection} {file : String} {documents : List Json} {count : ℕ}
    {ran : Except Failure Unit × World} (haccess : connection.access = accessOf config)
    (hreaches : Clear path config world.files → Reaches connection files)
    (hfound : contents (filesOpened path config world.files) file = .ok documents)
    (h : Imports environment connection documents deposits { world with files, output := "" }
      count ran.1 ran.2) :
    Appends path environment config file world count (ended ran) := by
  have hdocuments : documentsIn (filesOpened path config world.files) file = documents := by
    rw [documentsIn_eq, hfound]
  obtain ⟨_ | _, later⟩ := ran
  · next failure =>
    refine ⟨hdocuments ▸ h.atMost, h.minted, ?_, hdocuments ▸ h.accepted, Or.inr ⟨failure, rfl, ?_⟩⟩
    · simpa [ended, hdocuments] using h.output
    · rw [hfound]
      exact halts_of_stops haccess hreaches (h.stopped failure rfl)
  · refine ⟨hdocuments ▸ h.atMost, h.minted, ?_, hdocuments ▸ h.accepted, Or.inl ⟨rfl, ?_⟩⟩
    · simpa [ended, hdocuments] using h.output
    · rw [hfound, hdocuments, h.all rfl, List.take_length]

lemma Comes.imports {file : String}
    (h : Comes path start environment config (.importDocuments file) world deposits result) :
    ∃ count, Appends path environment config file world count result ∧
      (0 < count → accessOf config = .writing) ∧
      Held path start result.2.files (deposits ++ deposited environment world.minted
        ((documentsIn (filesOpened path config world.files) file).take count)) := by
  cases h with
  | unopened e hway hshut files hheld =>
    refine ⟨0, appends_none (.shut e hway rfl fun hmay => hshut hmay.2), by simp, ?_⟩
    rwa [List.take_zero, deposited, List.append_nil]
  | opened files hfiles hheld hreaches =>
    simp only [actOf, run_importFile]
    cases hcontents : contents files file with
    | error failure =>
      rw [hfiles] at hcontents
      refine ⟨0, appends_none (.unusable failure rfl hcontents), by simp, ?_⟩
      rwa [List.take_zero, deposited, List.append_nil]
    | ok documents =>
      have hkeeps : Keeps (connectionTo path start (accessOf config)).place
          (World.mk files world.minted "").files deposits := hheld.keeps
      obtain ⟨count, himports⟩ := imports_storeAll environment documents hkeeps
      have hdocuments : documentsIn files file = documents := by rw [documentsIn_eq, hcontents]
      rw [← hfiles, ended_snd, hdocuments]
      exact ⟨count, appends_storeAll rfl hreaches (hfiles ▸ hcontents) himports,
        himports.writing, hheld.moves himports.moves⟩

lemma Comes.deletes {id : String}
    (h : Comes path start environment config (.deleteDocument id) world deposits result) :
    (∃ e, OnTheWay e ∧ result.1 = .failure (.hub e)) ∧ ¬MayChange path config world.files ∧
        Held path start result.2.files deposits ∨
      result.1 = .failure (.noDocument id) ∧ (¬∃ deposit ∈ deposits, deposit.id = id) ∧
        Held path start result.2.files deposits ∨
      result.1 = .success ∧ accessOf config = .writing ∧ (∃ deposit ∈ deposits, deposit.id = id) ∧
        Held path start result.2.files (withoutId id deposits) := by
  cases h with
  | unopened e hway hshut files hheld =>
    exact Or.inl ⟨⟨e, hway, rfl⟩, fun hmay => hshut hmay.2, hheld⟩
  | opened files hfiles hheld hreaches =>
    have hkeeps : Keeps (connectionTo path start (accessOf config)).place
        (World.mk files world.minted "").files deposits := hheld.keeps
    have hdeletes := deletes_run hkeeps id
    simp only [actOf]
    generalize (deleteDocument (connectionTo path start (accessOf config)) id).run
      { world with files, output := "" } = ran at hdeletes
    cases hdeletes with
    | refused fault hshut later hlater =>
      exact Or.inl ⟨⟨_, .database fault, rfl⟩, mayChange_shut hreaches rfl hshut,
        hheld.undisturbed hlater⟩
    | absent later habsent hlater =>
      exact Or.inr (Or.inl ⟨rfl, habsent, hheld.undisturbed hlater⟩)
    | removes later haccess hlive hlater =>
      exact Or.inr (Or.inr ⟨rfl, haccess, hlive, hheld.moves hlater⟩)

lemma asks_actOf {reply : Database → Reply} (h : replyTo task = some reply) :
    Asks (actOf environment task) reply := by
  cases task with
  | listDocuments =>
    obtain rfl := Option.some.inj h
    exact asks_listDocuments
  | showProvider name =>
    obtain rfl := Option.some.inj h
    exact asks_showProvider name
  | authenticate name password =>
    obtain rfl := Option.some.inj h
    exact asks_authenticate name password
  | showType id =>
    obtain rfl := Option.some.inj h
    exact asks_showType id
  | _ => cases h

def Replies (reply : Reply) (result : Outcome × World) : Prop :=
  result.1 = (match reply.result with
    | .ok () => .success
    | .error failure => .failure failure) ∧ result.2.output = printed reply.lines

structure Hindered (result : Outcome × World) : Prop where
  failure : ∃ e, OnTheWay e ∧ result.1 = .failure (.hub e)
  silent : result.2.output = ""

lemma replies_ended (reply : Reply) (files : Files) (world : World) :
    Replies reply (ended (reply.result, { world with files, output := "" ++ printed reply.lines }))
      := by
  obtain ⟨_ | _, _⟩ := reply <;> exact ⟨rfl, by simp [ended]⟩

lemma Comes.replies {reply : Database → Reply} (hreply : replyTo task = some reply)
    (h : Comes path start environment config task world deposits result) :
    Held path start result.2.files deposits ∧
      (Replies (reply (shelf deposits)) result ∨
        Hindered result ∧ ¬Clear path config world.files) := by
  cases h with
  | unopened e hway hshut files hheld => exact ⟨hheld, Or.inr ⟨⟨⟨e, hway, rfl⟩, rfl⟩, hshut⟩⟩
  | opened files hfiles hheld hreaches =>
    obtain ⟨later, hlater, ⟨hunreached, fault, hrun⟩ | ⟨database, hdatabase, hrun⟩⟩ :=
      asks_actOf hreply (connectionTo path start (accessOf config))
        { world with files, output := "" }
    · rw [hrun]
      exact ⟨hheld.undisturbed hlater.undisturbed,
        Or.inr ⟨⟨⟨_, .database _, rfl⟩, rfl⟩, fun hclear => hunreached (hreaches hclear)⟩⟩
    · obtain rfl := hheld.keeps.eq_shelf hdatabase
      rw [hrun]
      refine ⟨?_, Or.inl (replies_ended _ _ _)⟩
      rw [ended_snd]
      exact hheld.undisturbed hlater.undisturbed

lemma Comes.held (htask : usesDatabase task = true)
    (h : Comes path start environment config task world deposits result) :
    Held path start result.2.files
      (afterTask environment task (filesOpened path config world.files) world result deposits) := by
  cases task with
  | importDocuments file =>
    obtain ⟨count, happends, -, hheld⟩ := h.imports
    simpa [afterTask, happends.minted] using hheld
  | deleteDocument id =>
    rcases h.deletes with ⟨⟨e, -, hresult⟩, -, hheld⟩ | ⟨hresult, -, hheld⟩ | ⟨hresult, -, -, hheld⟩
    · simpa only [afterTask, hresult] using hheld
    · simpa only [afterTask, hresult] using hheld
    · simpa only [afterTask, hresult] using hheld
  | listDocuments => exact (h.replies rfl).1
  | showProvider name => exact (h.replies rfl).1
  | authenticate name password => exact (h.replies rfl).1
  | showType id => exact (h.replies rfl).1
  | _ => cases htask

lemma afterTask_other (htask : usesDatabase task = false) (files : Files) :
    afterTask environment task files world result deposits = deposits := by
  cases task <;> first | rfl | cases htask

lemma files_initConfig (environment : Environment) (world : World) :
    ((initConfig environment).run world).2.files =
      (Config.init environment.home world.files).1 := by
  cases hinit : Config.init environment.home world.files with
  | mk files result =>
    cases result with
    | error e =>
      have hrun : (initConfig environment).run world = (.error (.hub e), { world with files }) :=
        run_bind_error (run_withFiles hinit)
      rw [hrun]
    | ok file =>
      have hrun : (initConfig environment).run world =
          (Run.printLine ("Config initialized at: " ++ file)).run { world with files } :=
        run_bind_ok (run_withFiles hinit)
      rw [hrun, gives_printLine]

lemma files_runTask (htask : usesDatabase task = false) (hinit : task ≠ .initConfig)
    (database : Option String) :
    ((runTask environment config database task).run world).2.files = world.files := by
  cases task with
  | querySettings parameters strict =>
    simp only [runTask]
    cases settingsOf parameters strict <;> rfl
  | canonicalText text => rfl
  | hashPassword name password => rfl
  | contentId tag localId => rfl
  | showConfig => rfl
  | initConfig => exact absurd rfl hinit
  | _ => cases htask

lemma held_of_other (h : Held path start world.files deposits)
    (hissued : Issued environment arguments world.files request config)
    (haimed : Aimed path environment arguments world.files)
    (htask : usesDatabase request.task = false) :
    Held path start (run environment arguments world).2.files deposits := by
  rw [run_issued hissued, ended_snd]
  by_cases hinit : request.task = .initConfig
  · rw [hinit, runTask, files_initConfig]
    apply h.moves
    rw [← databasePlace_current h.current]
    exact moves_init haimed.config
  · rwa [files_runTask htask hinit]

lemma held_run (hpath : OnDisk path) (h : Held path start world.files deposits)
    (haimed : Aimed path environment arguments world.files) :
    Held path start (run environment arguments world).2.files
      (after path environment arguments world deposits) := by
  by_cases hissued : ∃ request config, Issued environment arguments world.files request config
  · obtain ⟨request, config, hissued⟩ := hissued
    rw [after_issued hissued]
    cases htask : usesDatabase request.task with
    | false =>
      rw [afterTask_other htask]
      exact held_of_other h hissued haimed htask
    | true => exact (comes_run hpath h hissued haimed htask).held htask
  · obtain ⟨-, hfiles, hafter⟩ := run_unissued hissued
    rwa [hfiles, hafter]

lemma Course.onDisk (h : Course path start world deposits) : OnDisk path := by
  induction h with
  | start _ _ hpath _ => exact hpath
  | elsewhere _ _ _ ih => exact ih
  | command _ _ _ _ _ ih => exact ih

lemma Course.held (h : Course path start world deposits) :
    Held path start world.files deposits := by
  induction h with
  | start world hfiles hpath hvacant =>
    rw [hfiles]
    exact ⟨rfl, Or.inr ⟨hvacant, rfl⟩, fun database hdatabase =>
      absurd hdatabase (hvacant database)⟩
  | elsewhere _ later hfiles ih => exact ih.undisturbed hfiles
  | command h environment arguments haimed _ ih => exact held_run h.onDisk ih haimed

lemma ids_deposited (environment : Environment) (minted : ℕ) (documents : List Json) :
    (deposited environment minted documents).map Deposit.id =
      (List.range' minted documents.length).map fun n => (environment.fresh n).1 := by
  induction documents generalizing minted with
  | nil => rfl
  | cons document rest ih => simp [deposited, ih, List.range'_succ]

lemma mem_ids_deposited {minted : ℕ} {documents : List Json} {id : String}
    (h : id ∈ (deposited environment minted documents).map Deposit.id) :
    ∃ n ≥ minted, id = (environment.fresh n).1 := by
  rw [ids_deposited] at h
  obtain ⟨n, hn, rfl⟩ := List.mem_map.mp h
  exact ⟨n, (List.mem_range'_1.mp hn).1, rfl⟩

lemma nodup_ids_deposited {minted : ℕ}
    (hapart : ∀ m ≥ minted, ∀ n ≥ minted,
      (environment.fresh m).1 = (environment.fresh n).1 → m = n) (documents : List Json) :
    ((deposited environment minted documents).map Deposit.id).Nodup := by
  rw [ids_deposited]
  apply List.Nodup.map_on _ List.nodup_range'
  intro m hm n hn hsame
  exact hapart m (List.mem_range'_1.mp hm).1 n (List.mem_range'_1.mp hn).1 hsame

lemma nodup_append_deposited {minted : ℕ} (h : (deposits.map Deposit.id).Nodup)
    (hfresh : Fresh environment minted deposits) (documents : List Json) :
    ((deposits ++ deposited environment minted documents).map Deposit.id).Nodup := by
  rw [List.map_append, List.nodup_append]
  refine ⟨h, nodup_ids_deposited hfresh.apart documents, ?_⟩
  intro id hid other hother hsame
  obtain ⟨deposit, hdeposit, rfl⟩ := List.mem_map.mp hid
  obtain ⟨n, hn, rfl⟩ := mem_ids_deposited hother
  exact hfresh.unused n hn deposit hdeposit hsame

lemma nodup_afterTask (h : (deposits.map Deposit.id).Nodup)
    (hfresh : Fresh environment world.minted deposits) (task : Task) (files : Files)
    (result : Outcome × World) :
    ((afterTask environment task files world result deposits).map Deposit.id).Nodup := by
  cases task with
  | importDocuments file => exact nodup_append_deposited h hfresh _
  | deleteDocument id =>
    simp only [afterTask]
    split
    · exact h.sublist (List.filter_sublist.map Deposit.id)
    · exact h
  | _ => exact h

lemma Course.nodup (h : Course path start world deposits) :
    (deposits.map Deposit.id).Nodup := by
  induction h with
  | start _ _ _ _ => exact List.nodup_nil
  | elsewhere _ _ _ ih => exact ih
  | @command world deposits _ environment arguments _ hfresh ih =>
    simp only [after]
    split
    · exact nodup_afterTask ih hfresh _ _ _
    · exact ih

end ContentHub.Command
