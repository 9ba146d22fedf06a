import NotifyScope.Number
import NotifyScope.Report.Tally

/-
  This file writes the summary that ends a verbose run.

  Key definitions include:
    * `Stats.seconds`
    * `Stats.pace`
    * `Summary.lines`
-/

namespace NotifyScope

------------------------------------------------------------
-- Figures
------------------------------------------------------------

namespace Stats

/- The nanoseconds of a second. -/
def nanosPerSecond : Nat := 1000000000

/-
  The seconds that passed, as a floating-point number: whole
  seconds and the rest are rounded, and then their sum.
-/
def seconds
    (stats : Stats) : Fraction :=
  let whole :=
    Fraction.ofNat (stats.elapsed / nanosPerSecond)
  let rest : Fraction :=
    { num := stats.elapsed % nanosPerSecond
      den := nanosPerSecond }
  (whole.toBinary.add rest.toBinary).toBinary

/- The milliseconds that passed. -/
def milliseconds
    (stats : Stats) : Fraction :=
  (stats.seconds.mul (Fraction.ofNat 1000)).toBinary

/- Lines by second, or all of them if no time passed. -/
def pace
    (stats : Stats) : Fraction :=
  let lines :=
    (Fraction.ofNat stats.counts.totalLines).toBinary
  if stats.seconds.num = 0 then
    lines
  else
    (lines.div stats.seconds).toBinary

end Stats

------------------------------------------------------------
-- Lines
------------------------------------------------------------

namespace Summary

/- Numbers with what they count, between commas. -/
def list
    (counts : List (Nat × String)) : String :=
  ", ".intercalate
    (counts.map fun (count, noun) =>
      toString count ++ " " ++ noun)

/- What became of the files. -/
def files
    (tally : Tally) : String :=
  list
    [(tally.total, "processed"),
      (tally.fixed, "fixed"),
      (tally.unchanged, "unchanged"),
      (tally.skippedMissing, "missing"),
      (tally.skippedNoMatch, "without match"),
      (tally.failed, "failed")]

/- What became of the methods. -/
def methods
    (counts : Counts) : String :=
  list
    [(counts.methodsFound, "found"),
      (counts.methodsWrapped, "wrapped"),
      (counts.methodsCanonical, "already canonical"),
      (counts.methodsRepaired, "repaired"),
      (counts.methodsSkipped, "skipped")]

/- The other edits. -/
def edits
    (counts : Counts) : String :=
  list
    [(counts.signaturesRenamed, "signature(s)"),
      (counts.markersInserted, "marker(s)"),
      (counts.callSitesRenamed, "call site(s)"),
      (counts.repairsApplied, "repair(s)")]

/- How long it took. -/
def time
    (stats : Stats) : String :=
  stats.milliseconds.decimal 2 ++ "ms (" ++
    stats.pace.decimal 0 ++ " lines/sec)"

/- A line of the summary. -/
def line
    (colored : Bool)
    (tone : Tone)
    (title text : String) : String :=
  "  " ++ tone.paint colored title ++ " " ++ text

/-
  The lines of the summary.  Files are only listed if there
  are several, and errors if there are any.
-/
def lines
    (colored : Bool)
    (stats : Stats)
    (tally : Tally)
    (errors : Nat) : List String :=
  let rule := Tone.separator colored
  let stat := line colored .statLabel
  ["", rule ++ " Summary " ++ rule] ++
    (if 1 < tally.total then
      [stat "Files:" (files tally)]
    else
      []) ++
    [stat "Methods:" (methods stats.counts),
      stat "Edits:" (edits stats.counts),
      stat "Time:" (time stats)] ++
    (if 0 < errors then
      [line colored .warning "Errors:" (toString errors)]
    else
      []) ++
    [""]

end Summary

end NotifyScope
