import ContentHub.Proofs.Command.Course
import Mathlib.Tactic

/-!
What commands do with the documents of a database, and what they answer. Documents come in by
imports and go by deletions only, and what the other commands answer about them is what the resolver
and the list say of the documents that came in and did not go.
-/

namespace ContentHub.Command

open Store

inductive Removes (path : String) (config : Config) (files : Files) (id : String) :
    List Deposit → List Deposit → Outcome → Prop
  | removed (before rest : List Deposit) (deposit : Deposit) (hid : deposit.id = id)
      (hothers : ∀ other ∈ before ++ rest, other.id ≠ id) :
      Removes path config files id (before ++ deposit :: rest) (before ++ rest) .success
  | absent (deposits : List Deposit) (habsent : ¬∃ deposit ∈ deposits, deposit.id = id) :
      Removes path config files id deposits deposits (.failure (.noDocument id))
  | shut (e : Error) (hway : OnTheWay e) (deposits : List Deposit)
      (hshut : ¬MayChange path config files) :
      Removes path config files id deposits deposits (.failure (.hub e))

structure Accounted (path : String) (place : Place) (environment : Environment) (request : Request)
    (config : Config) (world : World) (deposits moved : List Deposit) (result : Outcome × World) :
    Prop where
  imports : ∀ file, request.task = .importDocuments file → ∃ count,
    Appends path environment config file world count result ∧
      moved = deposits ++ deposited environment world.minted
        ((documentsIn (filesOpened path config world.files) file).take count)
  deletes : ∀ id, request.task = .deleteDocument id →
    Removes path config world.files id deposits moved result.1
  keeps : (∀ file, request.task ≠ .importDocuments file) →
    (∀ id, request.task ≠ .deleteDocument id) → moved = deposits
  readOnly : config.storage.readOnly = true → moved = deposits ∧
    (∀ id, request.task = .deleteDocument id → result.1 ≠ .success) ∧
      ∀ file, request.task = .importDocuments file → result.1 = .success →
        contents (filesOpened path config world.files) file = .ok []
  missing : config.storage.readOnly = true → usesDatabase request.task = true →
    Locator.ofPath path = .ok { name := path } → world.files.node? place = none →
      result.1 ≠ .success ∧ result.2.files = world.files
  replies : ∀ reply, replyTo request.task = some reply →
    Replies (reply (shelf deposits)) result ∨
      Hindered result ∧ ¬Clear path config world.files

variable {path : String} {start files : Files} {world : World} {deposits : List Deposit}
  {environment : Environment} {arguments : List String} {request : Request} {config : Config}
  {task : Task} {result : Outcome × World}

lemma removes_withoutId {id : String} (hnodup : (deposits.map Deposit.id).Nodup)
    (hlive : ∃ deposit ∈ deposits, deposit.id = id) :
    Removes path config files id deposits (withoutId id deposits) .success := by
  obtain ⟨deposit, hdeposit, hid⟩ := hlive
  obtain ⟨before, rest, rfl⟩ := List.append_of_mem hdeposit
  -- the ids are apart, so the filter takes the deposit in the middle and nothing else
  have hothers : ∀ other ∈ before ++ rest, other.id ≠ id := by
    rw [List.map_append, List.map_cons, List.nodup_middle, List.nodup_cons, hid] at hnodup
    intro other hother hsame
    apply hnodup.1
    rw [← List.map_append, ← hsame]
    exact List.mem_map_of_mem hother
  have hkept : withoutId id (before ++ deposit :: rest) = before ++ rest := by
    have hall : withoutId id (before ++ rest) = before ++ rest :=
      withoutId_of_absent fun ⟨other, hother, hsame⟩ => hothers other hother hsame
    simpa [withoutId, hid] using hall
  rw [hkept]
  exact .removed before rest deposit hid hothers

lemma Comes.imported {file : String}
    (h : Comes path start environment config (.importDocuments file) world deposits result) :
    ∃ count, Appends path environment config file world count result ∧
      afterTask environment (.importDocuments file) (filesOpened path config world.files) world
        result deposits = deposits ++ deposited environment world.minted
          ((documentsIn (filesOpened path config world.files) file).take count) := by
  obtain ⟨count, happends, -, -⟩ := h.imports
  exact ⟨count, happends, by simp [afterTask, happends.minted]⟩

lemma Comes.removes {id : String} (hnodup : (deposits.map Deposit.id).Nodup)
    (h : Comes path start environment config (.deleteDocument id) world deposits result) :
    Removes path config world.files id deposits (afterTask environment (.deleteDocument id)
      (filesOpened path config world.files) world result deposits) result.1 := by
  rcases h.deletes with
    ⟨⟨e, hway, hresult⟩, hshut, -⟩ | ⟨hresult, habsent, -⟩ | ⟨hresult, -, hlive, -⟩
  · simp only [afterTask, hresult]
    exact .shut e hway deposits hshut
  · simp only [afterTask, hresult]
    exact .absent deposits habsent
  · simp only [afterTask, hresult]
    exact removes_withoutId hnodup hlive

lemma Comes.reading (hreadOnly : config.storage.readOnly = true)
    (h : Comes path start environment config task world deposits result) :
    afterTask environment task (filesOpened path config world.files) world result deposits =
        deposits ∧
      (∀ id, task = .deleteDocument id → result.1 ≠ .success) ∧
        ∀ file, task = .importDocuments file → result.1 = .success →
          contents (filesOpened path config world.files) file = .ok [] := by
  have hreading := accessOf_readOnly hreadOnly
  cases task with
  | importDocuments file =>
    obtain ⟨count, happends, hwriting, -⟩ := h.imports
    -- every document that was stored needed access for writing
    have hnone : count = 0 := by
      by_contra hcount
      rw [hreading] at hwriting
      cases hwriting (Nat.pos_of_ne_zero hcount)
    refine ⟨by simp [afterTask, happends.minted, hnone, deposited], by simp, ?_⟩
    intro other hother hsuccess
    obtain rfl := Task.importDocuments.inj hother
    rcases happends.ends with ⟨-, hfound⟩ | ⟨failure, hfailure, -⟩
    · rw [hfound, hnone, List.take_zero]
    · cases hsuccess.symm.trans hfailure
  | deleteDocument id =>
    rcases h.deletes with ⟨⟨e, -, hresult⟩, -⟩ | ⟨hresult, -, -⟩ | ⟨-, hwriting, -, -⟩
    · simp [afterTask, hresult]
    · simp [afterTask, hresult]
    · rw [hreading] at hwriting
      cases hwriting
  | _ => exact ⟨rfl, by simp, by simp⟩

lemma contains_of_vacant (h : files.node? (files.placeOf path) = none) :
    files.contains path = false := by
  rw [Files.contains, Files.find]
  cases hlocate : files.locate path with
  | error fault => rfl
  | ok place =>
    rw [Files.placeOf_of_locate hlocate] at h
    simp only [Except.bind, h]
    rfl

lemma run_missing (hissued : Issued environment arguments world.files request config)
    (haimed : Aimed path environment arguments world.files)
    (hreadOnly : config.storage.readOnly = true) (htask : usesDatabase request.task = true)
    (hnamed : Locator.ofPath path = .ok { name := path })
    (hnone : world.files.node? (databasePlace path world.files) = none) :
    (run environment arguments world).1 ≠ .success ∧
      (run environment arguments world).2.files = world.files := by
  have hcontains : world.files.contains path = false := by
    rw [databasePlace, locatorOf_named hnamed] at hnone
    exact contains_of_vacant hnone
  obtain ⟨meant, hmeant⟩ := hissued.pathMeant
  obtain rfl := haimed.database request config hissued htask meant hmeant
  have hopen : Connection.openWith (accessOf config) meant world.files =
      (world.files, .error (.storage (.noDatabase meant))) := by
    simp [accessOf_readOnly hreadOnly, Connection.openWith, Connection.openReadable, hcontains]
  rw [run_unopened hissued htask hmeant hopen]
  exact ⟨by simp, rfl⟩

lemma usesDatabase_of_reply {reply : Database → Reply} (h : replyTo task = some reply) :
    usesDatabase task = true := by
  cases task <;> first | rfl | cases h

lemma accounted_other (htask : usesDatabase request.task = false) (place : Place)
    (result : Outcome × World) :
    Accounted path place environment request config world deposits deposits result where
  imports file hfile := by simp [hfile, usesDatabase] at htask
  deletes id hid := by simp [hid, usesDatabase] at htask
  keeps _ _ := rfl
  readOnly _ := by
    refine ⟨rfl, fun id hid => ?_, fun file hfile => ?_⟩
    · simp [hid, usesDatabase] at htask
    · simp [hfile, usesDatabase] at htask
  missing _ huses := by simp [huses] at htask
  replies reply hreply := by simp [usesDatabase_of_reply hreply] at htask

lemma accounted_run (h : Course path start world deposits)
    (haimed : Aimed path environment arguments world.files)
    (hissued : Issued environment arguments world.files request config) :
    Accounted path (databasePlace path start) environment request config world deposits
      (after path environment arguments world deposits) (run environment arguments world) := by
  have hheld := h.held
  rw [after_issued hissued]
  cases htask : usesDatabase request.task with
  | false =>
    rw [afterTask_other htask]
    exact accounted_other htask _ _
  | true =>
    have hcomes := comes_run h.onDisk hheld hissued haimed htask
    refine ⟨fun file hfile => ?_, fun id hid => ?_, fun himport hdelete => ?_, hcomes.reading,
      fun hreadOnly huses hnamed hnone => ?_, fun reply hreply => (hcomes.replies hreply).2⟩
    · rw [hfile] at hcomes ⊢
      exact hcomes.imported
    · rw [hid] at hcomes ⊢
      exact hcomes.removes h.nodup
    · cases hrequest : request.task with
      | importDocuments file => exact absurd hrequest (himport file)
      | deleteDocument id => exact absurd hrequest (hdelete id)
      | _ => rfl
    · rw [← databasePlace_current hheld.current] at hnone
      exact run_missing hissued haimed hreadOnly huses hnamed hnone

/-- After any course of commands on one database in a file, the database holds the deposits that the
commands account for, each id once, and it does so after any further command. A command that is not
issued does nothing, and every other one is accounted for by its task. -/
theorem documents_accounted (h : Course path start world deposits)
    (haimed : Aimed path environment arguments world.files) :
    (deposits.map Deposit.id).Nodup ∧ Keeps (databasePlace path start) world.files deposits ∧
      Keeps (databasePlace path start) (run environment arguments world).2.files
        (after path environment arguments world deposits) ∧
      ((¬∃ request config, Issued environment arguments world.files request config) →
        (run environment arguments world).1 ≠ .success ∧
          (run environment arguments world).2.files = world.files ∧
          after path environment arguments world deposits = deposits) ∧
      ∀ request config, Issued environment arguments world.files request config →
        Accounted path (databasePlace path start) environment request config world deposits
          (after path environment arguments world deposits) (run environment arguments world) :=
  ⟨h.nodup, h.held.keeps, (held_run h.onDisk h.held haimed).keeps, run_unissued,
    fun _ _ => accounted_run h haimed⟩

lemma aimed_of_named {file : String} (hparsed : parseArguments arguments = .ok request)
    (hdatabase : request.database = some path)
    (hfile : Config.filePath environment.home = .ok file)
    (hne : files.placeOf file ≠ databasePlace path files) :
    Aimed path environment arguments files where
  database other config hissued _ meant hmeant := by
    obtain rfl := Except.ok.inj (hparsed.symm.trans hissued.parsed)
    simp only [pathMeant, hdatabase, Option.some_or] at hmeant
    exact (Except.ok.inj hmeant).symm
  config other hother := by
    obtain rfl := Except.ok.inj (hfile.symm.trans hother)
    exact hne

section Samples

def sampleEnvironment (home : String) : Environment where
  home := some home
  fresh n := (String.ofList ('d' :: List.replicate n '1'), "noon")

def sampleWorld : World where
  files := { nodes := [
    (["a.json"], .text "\x7b\"name\": \"a\"\x7d"),
    (["file:y.db"], .text ""),
    (["r", ".dcp", "dcp.toml"], .text "[storage]\nreadonly = true\n"),
    (["r", ".dcp"], .directory),
    (["r"], .directory)] }

def importing (path : String) : List String :=
  ["--db", path, "provider", "import", "/a.json"]

def listing (path : String) : List String :=
  ["--db", path, "provider", "list"]

def imported (path : String) : World :=
  (run (sampleEnvironment "/") (importing path) sampleWorld).2

def sampleDeposit : Deposit :=
  ⟨"d", "noon", .object [("name", .string "a")]⟩

lemma fresh_sample (home : String) : Fresh (sampleEnvironment home) 0 [] where
  unused _ _ := by simp
  apart m _ n _ hsame := by
    have hlength := congrArg String.length hsame
    simpa [sampleEnvironment] using hlength

lemma start_sample : Course "/x.db" sampleWorld.files sampleWorld [] := by
  refine .start sampleWorld rfl ⟨by decide +kernel, by decide +kernel⟩ fun database => ?_
  have hnone : sampleWorld.files.node? (databasePlace "/x.db" sampleWorld.files) = none := by
    decide +kernel
  simp [hnone]

lemma course_sample : Course "/x.db" sampleWorld.files (imported "/x.db") [sampleDeposit] := by
  have hparsed : parseArguments (importing "/x.db") =
      .ok ⟨some "/x.db", .importDocuments "/a.json"⟩ := by decide +kernel
  have hfile : Config.filePath (sampleEnvironment "/").home = .ok "/.dcp/dcp.toml" := by
    decide +kernel
  have haimed : Aimed "/x.db" (sampleEnvironment "/") (importing "/x.db") sampleWorld.files :=
    aimed_of_named hparsed rfl hfile (by decide +kernel)
  have hafter : after "/x.db" (sampleEnvironment "/") (importing "/x.db") sampleWorld [] =
      [sampleDeposit] := by decide +kernel
  rw [← hafter]
  exact .command start_sample (sampleEnvironment "/") (importing "/x.db") haimed (fresh_sample "/")

lemma plain_sample : Plain "/x.db" := by
  constructor <;> decide +kernel

lemma grounded_of_root (hcurrent : files.current = []) : Grounded files := by
  refine ⟨?_, ?_⟩
  · rw [hcurrent]
    exact Files.reached_root _
  · rw [hcurrent]
    rfl

lemma ready_sample : Ready "/x.db" (imported "/x.db").files where
  plain := plain_sample
  grounded := grounded_of_root (by decide +kernel)
  database := ⟨shelf [sampleDeposit], by decide +kernel⟩
  journal := by decide +kernel
  log := by decide +kernel

lemma makeable_sample : Makeable "/x.db" sampleWorld.files where
  plain := plain_sample
  grounded := grounded_of_root rfl
  parent parent hparent := by
    obtain rfl : "/" = parent := Option.some.inj ((by decide +kernel : _ = _).symm.trans hparent)
    decide +kernel
  room := by decide +kernel
  fits := by
    have hplace : descend sampleWorld.files (startOf "/x.db" sampleWorld.files)
        (Files.pathParts "/x.db") = some ["x.db"] := by decide +kernel
    exact fits_of_descend hplace
  blank := by decide +kernel
  journal := by decide +kernel
  log := by decide +kernel

def listed (home path : String) (world : World) : Outcome × World :=
  run (sampleEnvironment home) (listing path) world

theorem documents_accounted_sample :
    (Course "/x.db" sampleWorld.files sampleWorld [] ∧
      Aimed "/x.db" (sampleEnvironment "/") (listing "/x.db") sampleWorld.files ∧
      Replies (listReply (shelf []).list) (listed "/" "/x.db" sampleWorld) ∧
      (listed "/" "/x.db" sampleWorld).2.output = "No provider documents stored.\n") ∧
    Course "/x.db" sampleWorld.files (imported "/x.db") [sampleDeposit] ∧
      Aimed "/x.db" (sampleEnvironment "/r") (listing "/x.db") (imported "/x.db").files ∧
      Replies (listReply (shelf [sampleDeposit]).list) (listed "/r" "/x.db" (imported "/x.db")) ∧
      (listed "/r" "/x.db" (imported "/x.db")).2.output = "d  a                        noon\n" := by
  have hparsed : parseArguments (listing "/x.db") = .ok ⟨some "/x.db", .listDocuments⟩ := by
    decide +kernel
  have hfile : Config.filePath (sampleEnvironment "/").home = .ok "/.dcp/dcp.toml" := by
    decide +kernel
  have hreading : Config.filePath (sampleEnvironment "/r").home = .ok "/r/.dcp/dcp.toml" := by
    decide +kernel
  have hstart : Aimed "/x.db" (sampleEnvironment "/") (listing "/x.db") sampleWorld.files :=
    aimed_of_named hparsed rfl hfile (by decide +kernel)
  have haimed : Aimed "/x.db" (sampleEnvironment "/r") (listing "/x.db")
      (imported "/x.db").files := aimed_of_named hparsed rfl hreading (by decide +kernel)
  have hwrites : Config.load (sampleEnvironment "/").home sampleWorld.files = .ok {} := by
    decide +kernel
  have hreads : Config.load (sampleEnvironment "/r").home (imported "/x.db").files =
      .ok { storage := { readOnly := true } } := by decide +kernel
  obtain ⟨-, -, -, -, hmakes⟩ := documents_accounted start_sample hstart
  obtain ⟨-, -, -, -, hreplies⟩ := documents_accounted course_sample haimed
  have hmade := (hmakes _ _ ⟨hparsed, hwrites⟩).replies _ rfl
  have hanswer := (hreplies _ _ ⟨hparsed, hreads⟩).replies _ rfl
  refine ⟨⟨start_sample, hstart, ?_, by decide +kernel⟩, course_sample, haimed, ?_,
    by decide +kernel⟩
  · exact hmade.resolve_right fun h => h.2 (.makes makeable_sample rfl)
  · exact hanswer.resolve_right fun h => h.2 (.there ready_sample)

/-- Nothing of a database in memory is left to the next command. Access for reading only looks for
the path itself and not for what it means to the engine, and an odd home directory can take the
place of a journal. A file that is something else is no database. -/
theorem documents_out_of_reach :
    ((run (sampleEnvironment "/") (importing ":memory:") sampleWorld).1 = .success ∧
      (imported ":memory:").output = "d  a\n" ∧
      (listed "/" ":memory:" (imported ":memory:")).2.output =
        "No provider documents stored.\n") ∧
    (∀ path ∈ ["file:/x.db", "/x.db/"],
      (listed "/" path (imported path)).2.output = "d  a                        noon\n" ∧
        (listed "/r" path (imported path)).1 = .failure (.hub (.storage (.noDatabase path)))) ∧
    (listed "/r" "/x.db" (run (sampleEnvironment "/x.db-journal") ["config", "init"]
        (imported "/x.db")).2).1 = .failure (.hub (.storage (.engine .cannotRead))) ∧
    (listed "/" "/a.json" sampleWorld).1 =
      .failure (.hub (.storage (.migration 1 .notADatabase))) ∧
    sampleWorld.files.node? ["y.db"] = none ∧
      (listed "/r" "file:y.db" sampleWorld).2.files.node? ["y.db"] = some (.text "") := by
  decide +kernel

end Samples

end ContentHub.Command
