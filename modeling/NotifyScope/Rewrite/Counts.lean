import NotifyScope.Wrapper.Repair
import NotifyScope.Method.Signature

/-
  This file defines what is counted while lines are rewritten,
  and how the counts of several files add up.

  Key definitions include:
    * `Counts`
    * `Counts.add`
    * `Stats`
    * `Stats.add`
-/

namespace NotifyScope

------------------------------------------------------------
-- Counts
------------------------------------------------------------

/- What was found and edited. -/
structure Counts where
  /- Declarations with a body that closes. -/
  methodsFound : Nat := 0
  /- Bodies that got a new wrapper. -/
  methodsWrapped : Nat := 0
  /- Bodies that had the wrapper already. -/
  methodsCanonical : Nat := 0
  /- Bodies with a wrapper that was mended. -/
  methodsRepaired : Nat := 0
  /- Declarations with a body that never closes. -/
  methodsSkipped : Nat := 0
  /- Declarations with a new name. -/
  signaturesRenamed : Nat := 0
  /- Marker lines put above declarations. -/
  markersInserted : Nat := 0
  /- Single edits of all repairs. -/
  repairsApplied : Nat := 0
  /- References renamed outside the declarations. -/
  callSitesRenamed : Nat := 0
  /- Lines that were read. -/
  totalLines : Nat := 0
deriving DecidableEq, Repr

namespace Counts

/- The counts of two pieces of work together. -/
def add
    (left right : Counts) : Counts :=
  { methodsFound := left.methodsFound + right.methodsFound
    methodsWrapped :=
      left.methodsWrapped + right.methodsWrapped
    methodsCanonical :=
      left.methodsCanonical + right.methodsCanonical
    methodsRepaired :=
      left.methodsRepaired + right.methodsRepaired
    methodsSkipped :=
      left.methodsSkipped + right.methodsSkipped
    signaturesRenamed :=
      left.signaturesRenamed + right.signaturesRenamed
    markersInserted :=
      left.markersInserted + right.markersInserted
    repairsApplied :=
      left.repairsApplied + right.repairsApplied
    callSitesRenamed :=
      left.callSitesRenamed + right.callSitesRenamed
    totalLines := left.totalLines + right.totalLines }

instance : Add Counts := ⟨add⟩

/- Count what was done to the body of a method. -/
def ofRepair
    (report : Repair.Report) : Counts :=
  { methodsRepaired := 1
    repairsApplied := report.total }

/- Count what was done to the signature of a method. -/
def ofDeclaration
    (edit : DeclarationChange) : Counts :=
  { signaturesRenamed := edit.renamed.toNat
    markersInserted := edit.markerInserted.toNat }

end Counts

------------------------------------------------------------
-- Time
------------------------------------------------------------

/- The counts with the nanoseconds that it took. -/
structure Stats where
  counts : Counts := {}
  elapsed : Nat := 0
deriving DecidableEq, Repr

namespace Stats

/- The statistics of two pieces of work together. -/
def add
    (left right : Stats) : Stats :=
  { counts := left.counts + right.counts
    elapsed := left.elapsed + right.elapsed }

instance : Add Stats := ⟨add⟩

end Stats

end NotifyScope
