import NotifyScope.Report.Json
import NotifyScope.Rewrite.Document
import NotifyScope.Text.Utf8

/-
  This file says what became of a document: in a report for
  programs, and in the messages of a run.

  Key definitions include:
    * `Document.json`
    * `Document.outcomeReport`
    * `Document.dryRunReport`
-/

namespace NotifyScope

namespace Document

------------------------------------------------------------
-- Reports for Programs
------------------------------------------------------------

/- The number of lines and bytes of a text. -/
def sizeFields
    (text : Text) : List (String × JsonValue) :=
  [("lines", .number (Text.lines text).length),
    ("bytes", .number (Utf8.encode text).length)]

/- The counts of a rewrite. -/
def countFields
    (counts : Counts) : List (String × JsonValue) :=
  [("methods_found", .number counts.methodsFound),
    ("methods_wrapped", .number counts.methodsWrapped),
    ("methods_canonical", .number counts.methodsCanonical),
    ("methods_repaired", .number counts.methodsRepaired),
    ("methods_skipped", .number counts.methodsSkipped),
    ("signatures_renamed", .number counts.signaturesRenamed),
    ("markers_inserted", .number counts.markersInserted),
    ("call_sites_renamed", .number counts.callSitesRenamed),
    ("repairs_applied", .number counts.repairsApplied)]

/-
  The report on a document.  Its text is a part of it only if
  asked for, and never in a dry run.
-/
def json
    (document : Document)
    (dryRun withContent : Bool) : JsonValue :=
  let status := if dryRun then "dry_run" else "success"
  let content :=
    if withContent && !dryRun then
      JsonValue.string document.rewritten
    else
      .null
  .object
    [("version", .string "1.0".toList),
      ("status", .string status.toList),
      ("file", .string document.name.toList),
      ("outcome", .string document.outcome.key.toList),
      ("detail", .optional document.detail),
      ("input", .object (sizeFields document.before)),
      ("rewrite", .object (countFields document.counts)),
      ("output", .object
        (sizeFields document.rewritten ++
          [("changed", .bool document.wouldChange)])),
      ("content", content)]

------------------------------------------------------------
-- Messages
------------------------------------------------------------

/- The edits that a message tells. -/
def edits
    (document : Document) : String :=
  toString document.counts.methodsWrapped ++ " wrapped, " ++
    toString document.counts.methodsRepaired ++
    " repaired, " ++
    toString document.counts.callSitesRenamed ++
    " call site(s)"

/- A message and where it goes. -/
inductive Message where
  /- A message for everyone. -/
  | notice (text : String)
  /- A message for those who want to know more. -/
  | progress (tone : Tone) (text : String)
deriving DecidableEq, Repr

/-
  What a run says about the outcome.  A missing file is not
  worth a word if a program reads along.
-/
def outcomeReport
    (document : Document)
    (forProgram : Bool) : Option Message :=
  let label := document.name ++ ": " ++ document.outcome.label
  match document.outcome with
  | .skippedMissing =>
      if forProgram then
        none
      else
        some (.notice
          ("Skipping " ++ document.name ++
            ": file not found"))
  | .failedUnbalancedBlock | .failedNestedSignature =>
      some (.notice
        (label ++ ": " ++ document.detail.getD ""))
  | .fixed =>
      some (.progress .success
        (label ++ " (" ++ document.edits ++ ")"))
  | .unchanged | .skippedNoMatch =>
      some (.progress .dim label)

/- What a dry run says about a document. -/
def dryRunReport
    (document : Document) : List Message :=
  if document.wouldChange then
    [.progress .method ("Would rewrite: " ++ document.name),
      .progress .dim ("  " ++ document.edits)]
  else
    [.progress .success
      ("No changes needed: " ++ document.name)]

/- What is said after a watched file was looked at. -/
def watchReport
    (document : Document) : String :=
  if document.wouldChange then
    "✓ " ++ document.name ++ ": wrapped " ++
      toString document.counts.methodsWrapped ++
      ", repaired " ++
      toString document.counts.methodsRepaired ++
      ", renamed " ++
      toString document.counts.callSitesRenamed ++
      " call site(s)"
  else
    "✓ " ++ document.name ++ ": no changes needed"

end Document

end NotifyScope
