import ContentHub.Command.Run
import Mathlib.Tactic

namespace ContentHub.Command

variable {α β : Type} {world later : World}

lemma run_bind_ok {act : Run α} {next : α → Run β} {x : α} (h : act.run world = (.ok x, later)) :
    (act >>= next).run world = (next x).run later := by
  have hact : (act >>= next).run world =
      ExceptT.bindCont next (act.run world).1 (act.run world).2 := rfl
  rw [hact, h]
  rfl

lemma run_bind_error {act : Run α} {next : α → Run β} {failure : Failure}
    (h : act.run world = (.error failure, later)) :
    (act >>= next).run world = (.error failure, later) := by
  have hact : (act >>= next).run world =
      ExceptT.bindCont next (act.run world).1 (act.run world).2 := rfl
  rw [hact, h]
  rfl

lemma run_check (x : Except Error α) :
    (Run.check x).run world = (x.mapError Failure.hub, world) := by
  cases x <;> rfl

lemma run_withFiles {act : Files → Files × Except Error α} {files : Files} {x : Except Error α}
    (h : act world.files = (files, x)) :
    (Run.withFiles act).run world = (x.mapError Failure.hub, { world with files }) := by
  have hact : (Run.withFiles act).run world =
      (Run.check (act world.files).2).run { world with files := (act world.files).1 } := rfl
  rw [hact, h, run_check]

lemma run_withFiles_ok {act : Files → Files × Except Error α} {files : Files} {x : α}
    (h : act world.files = (files, .ok x)) :
    (Run.withFiles act).run world = (.ok x, { world with files }) :=
  run_withFiles h

lemma run_showProvider {connection : Store.Connection} {name : String} {provider : Provider}
    {files : Files}
    (h : ((backend connection).findProvider name).run world.files =
      (.ok (some provider), files)) :
    (showProvider connection name).run world =
      (.ok (), { world with
        files, output := world.output ++ provider.toDocument.pretty ++ "\n" }) := by
  have hlook : (lookUp ((backend connection).findProvider name)).run world =
      (.ok (some provider), { world with files }) :=
    run_withFiles_ok (congrArg Prod.swap h)
  rw [showProvider, run_bind_ok hlook]
  rfl

end ContentHub.Command
