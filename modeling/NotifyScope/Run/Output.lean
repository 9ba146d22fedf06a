import NotifyScope.Diff.Unified
import NotifyScope.Report.Summary
import NotifyScope.Run.Session

/-
  This file shows what a run made of a document and saves it.

  Key definitions include:
    * `Session.report`
    * `Session.present`
    * `Session.store`
    * `Session.emit`
-/

namespace NotifyScope

namespace Session

variable {m : Type → Type} [Monad m] [Host m]

------------------------------------------------------------
-- Showing
------------------------------------------------------------

/- Tell what became of a document. -/
def report
    (session : Session)
    (document : Document) : m Unit :=
  match document.outcomeReport session.settings.json with
  | none => pure ()
  | some message => session.console.tell message

/- Show the changes to a document, if there are any. -/
def showDiff
    (proposed : Bool)
    (document : Document) : m Unit :=
  if document.wouldChange then
    Host.output
      (Text.str
        (Diff.unified document.name proposed
          document.before document.rewritten))
  else
    pure ()

/- Show a document in the report for programs. -/
def showJson
    (session : Session)
    (withContent : Bool)
    (document : Document) : m Unit :=
  Host.outputLine
    (Text.str
      ((document.json session.settings.dryRun
        withContent).render 0))

/- Show what a dry run found out. -/
def showDryRun
    (session : Session)
    (document : Document) : m Unit := do
  if session.settings.diff then
    showDiff true document
  for message in document.dryRunReport do
    session.console.tell message

/- Show a document in the way that the settings ask for. -/
def present
    (session : Session)
    (withContent : Bool)
    (document : Document) : m Unit :=
  if session.settings.json then
    session.showJson withContent document
  else if session.settings.dryRun then
    session.showDryRun document
  else if session.settings.diff then
    showDiff false document
  else
    pure ()

/- Show the summary to those who want to know more. -/
def summarize
    (session : Session)
    (stats : Stats)
    (tally : Tally)
    (errors : Nat) : m Unit := do
  if session.console.verbose then
    for line in
        Summary.lines session.console.colored stats tally
          errors do
      session.console.line line

------------------------------------------------------------
-- Saving
------------------------------------------------------------

/- The path of the backup of a file. -/
def backupPath
    (session : Session)
    (path : Path) : Path :=
  path ++ session.settings.backupExtension

/- Save a document, after a backup if one is asked for. -/
def store
    (session : Session)
    (path : Path)
    (document : Document) : Task m Unit := do
  if session.settings.backup then
    let backup := session.backupPath path
    Host.attempt
      ("Failed to create backup at " ++ Text.str backup)
      (Host.copy (m := m) path backup)
    session.console.say (m := m) .dim
      ("Created backup: " ++ Text.str backup)
  Host.attempt
    ("Failed to write to file: " ++ Text.str path)
    (Host.write (m := m) path
      (Utf8.encode document.rewritten))

/- Whether a document is to be saved. -/
def saves
    (session : Session)
    (document : Document) : Bool :=
  !session.settings.dryRun && !session.settings.diff &&
    document.wouldChange

/- Show a document, and save it if it is to be saved. -/
def emit
    (session : Session)
    (path : Path)
    (document : Document) : Task m Unit := do
  session.report (m := m) document
  session.present (m := m) false document
  if session.saves document then
    session.store path document

end Session

end NotifyScope
