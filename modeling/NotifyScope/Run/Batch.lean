import NotifyScope.Run.Output

/-
  This file rewrites the files of a run one after the other.
  A failure of one file does not keep the others from being
  rewritten.

  Key definitions include:
    * `Batch`
    * `Batch.step`
    * `Batch.failure?`
    * `Batch.run`
-/

namespace NotifyScope

/- What happened to the files so far. -/
structure Batch where
  tally : Tally := {}
  stats : Stats := {}
  wouldChange : Bool := false
  incomplete : Bool := false
  failures : List (Path × Failure) := []
deriving DecidableEq, Repr

namespace Batch

/- Count a file that was rewritten. -/
def record
    (batch : Batch)
    (processed : Processed) : Batch :=
  let document := processed.document
  { batch with
    tally := batch.tally.record document.outcome
    stats := batch.stats + processed.stats
    wouldChange := batch.wouldChange || document.wouldChange
    incomplete :=
      batch.incomplete || document.outcome.isFailure }

/- Count a file that could not be rewritten. -/
def fail
    (batch : Batch)
    (path : Path)
    (failure : Failure) : Batch :=
  { batch with
    failures := batch.failures ++ [(path, failure)] }

/- The names of the files that could not be rewritten. -/
def failedNames
    (batch : Batch) : String :=
  ", ".intercalate
    (batch.failures.map fun (path, _) => Text.str path)

/-
  The failure of the whole run.  That one file is no source
  text counts for more than other failures.
-/
def failure?
    (batch : Batch) : Option Failure :=
  let count := toString batch.failures.length
  if batch.failures.isEmpty then
    none
  else if batch.failures.any fun (_, failure) =>
      failure.kind == .content then
    some
      (.content
        (count ++ " file(s) had parse errors: " ++
          batch.failedNames))
  else
    some
      (.system
        (count ++ " file(s) had errors: " ++
          batch.failedNames))

/- How the run went, if no file failed. -/
def outcome
    (dryRun : Bool)
    (batch : Batch) : RunResult :=
  { dryRun
    wouldChange := batch.wouldChange
    incomplete := batch.incomplete }

variable {m : Type → Type} [Monad m] [Host m]

/- Rewrite a file. -/
def handle
    (session : Session)
    (path : Path) : Task m Processed := do
  let processed ← session.load path
  session.emit path processed.document
  pure processed

/- Rewrite one more file. -/
def step
    (session : Session)
    (batch : Batch)
    (path : Path) : m Batch := do
  match ← (handle session path : Task m Processed).run with
  | .ok processed => pure (batch.record processed)
  | .error failure =>
      Host.complainLine
        ("Error processing " ++ Text.str path ++ ": " ++
          failure.chain)
      pure (batch.fail path failure)

/- Rewrite files. -/
def run
    (session : Session)
    (paths : List Path) : Task m RunResult := do
  let batch ← (paths.foldlM (step session) {} : m Batch)
  session.summarize (m := m) batch.stats batch.tally
    batch.failures.length
  match batch.failure? with
  | some failure => throw failure
  | none => pure (batch.outcome session.settings.dryRun)

end Batch

end NotifyScope
