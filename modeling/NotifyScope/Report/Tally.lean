import NotifyScope.Failure

/-
  This file counts what became of the files of a run.

  Key definitions include:
    * `Tally`
    * `Tally.record`
    * `WatchLog`
    * `WatchLog.outcome`
-/

namespace NotifyScope

------------------------------------------------------------
-- Files
------------------------------------------------------------

/- How many files had each outcome. -/
structure Tally where
  fixed : Nat := 0
  unchanged : Nat := 0
  skippedMissing : Nat := 0
  skippedNoMatch : Nat := 0
  failed : Nat := 0
deriving DecidableEq, Repr

namespace Tally

/- Count one more file. -/
def record
    (tally : Tally) : Outcome → Tally
  | .fixed => { tally with fixed := tally.fixed + 1 }
  | .unchanged =>
      { tally with unchanged := tally.unchanged + 1 }
  | .skippedMissing =>
      { tally with
        skippedMissing := tally.skippedMissing + 1 }
  | .skippedNoMatch =>
      { tally with
        skippedNoMatch := tally.skippedNoMatch + 1 }
  | .failedUnbalancedBlock | .failedNestedSignature =>
      { tally with failed := tally.failed + 1 }

/- The number of files. -/
def total
    (tally : Tally) : Nat :=
  tally.fixed + tally.unchanged + tally.skippedMissing +
    tally.skippedNoMatch + tally.failed

/- One more file makes the total one more. -/
theorem total_record
    (tally : Tally)
    (outcome : Outcome) :
    (tally.record outcome).total = tally.total + 1 := by
  cases outcome <;> simp only [record, total] <;> omega

end Tally

------------------------------------------------------------
-- Watching
------------------------------------------------------------

/- What happened to the files that are watched. -/
structure WatchLog where
  anyChanges : Bool := false
  incomplete : Bool := false
deriving DecidableEq, Repr

namespace WatchLog

/- Count a file that was rewritten after a change. -/
def record
    (tally : WatchLog)
    (outcome : Outcome)
    (written : Bool) : WatchLog :=
  { anyChanges := tally.anyChanges || written
    incomplete := tally.incomplete || outcome.isFailure }

/- How the run went, once watching ends. -/
def outcome
    (tally : WatchLog) : RunResult :=
  { dryRun := false
    wouldChange := tally.anyChanges
    incomplete := tally.incomplete }

end WatchLog

end NotifyScope
