import ObjectStore.Config.Store

/-!
# Saving in place

A configuration is saved by work on the files of a machine, one step after the other, and a step that
fails undoes none of those before it. The document is made before any file is touched, which is what
keeps the file as it was when a configuration has no written form (`runOn_saveInPlace`).
-/

namespace ObjectStore.Config

/-- Work on files, which may stop halfway. -/
abbrev Filing := ExceptT Error (StateM FileTree) Unit

/-- What comes of work on files, and the files after it. -/
def Filing.runOn (work : Filing) (t : FileTree) : Except Error Unit × FileTree := work.run.run t

/-- A change of the files; `report` says how its failure is reported. -/
def alter (act : FileTree → Except FileError FileTree) (report : FileError → Error) : Filing := do
  match act (← get) with
  | .ok t => set t
  | .error e => throw (report e)

/-- Save a configuration to the file at a path, and close the file to all but its owner. -/
def saveInPlace (path : String) (c : Config) : Filing := do
  let text ← c.format
  alter (·.write path (Text.utf8 text))
    fun e => .config ("Failed to write config file: " ++ e.message)
  alter (·.setMode path fileMode) fun e => .io e.message

theorem runOn_alter (act : FileTree → Except FileError FileTree) (report : FileError → Error)
    (t : FileTree) : (alter act report).runOn t =
      match act t with
      | .ok t' => (.ok (), t')
      | .error e => (.error (report e), t) := by
  have hrun : (alter act report).runOn t =
      Filing.runOn (match act t with | .ok t => set t | .error e => throw (report e)) t := rfl
  rw [hrun]
  cases act t <;> rfl

/-- Work goes on with the files that are there, and only if it has not failed. -/
theorem runOn_bind (first : Filing) (next : Unit → Filing) (t : FileTree) :
    Filing.runOn (first >>= next) t =
      match first.runOn t with
      | (.ok (), t') => (next ()).runOn t'
      | (.error e, t') => (.error e, t') := by
  change Filing.runOn (ExceptT.bindCont next (first.runOn t).1) (first.runOn t).2 = _
  rcases first.runOn t with ⟨_ | _, t'⟩ <;> rfl

/-- What saving in place does: the files are changed by every step before one that fails. -/
theorem runOn_saveInPlace (t : FileTree) (path : String) (c : Config) :
    (saveInPlace path c).runOn t =
      match c.format with
      | .error e => (.error e, t)
      | .ok text =>
        match t.write path (Text.utf8 text) with
        | .error e => (.error (.config ("Failed to write config file: " ++ e.message)), t)
        | .ok written =>
          match written.setMode path fileMode with
          | .error e => (.error (.io e.message), written)
          | .ok closed => (.ok (), closed) := by
  rw [saveInPlace]
  cases c.format with
  | error e => rfl
  | ok text =>
    change Filing.runOn (alter _ _ >>= fun _ => alter _ _) t = _
    rw [runOn_bind, runOn_alter]
    dsimp only
    cases t.write path (Text.utf8 text) with
    | error e => rfl
    | ok written =>
      dsimp only
      rw [runOn_alter]
      cases written.setMode path fileMode <;> rfl

end ObjectStore.Config
