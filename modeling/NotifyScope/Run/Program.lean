import NotifyScope.Inputs
import NotifyScope.Run.Batch
import NotifyScope.Run.SettingsCommand
import NotifyScope.Run.Watch

/-
  This file runs the program: on the standard input if no
  files are named, and otherwise on files, once or each time
  that they change.

  Key definitions include:
    * `Program.runInput`
    * `Program.runFiles`
    * `Program.run`
    * `Program.execute`
-/

namespace NotifyScope

------------------------------------------------------------
-- Rules
------------------------------------------------------------

/- A rule as it is shown before a run. -/
def Rule.describe
    (rule : Rule) : String :=
  "Rule " ++ Text.str rule.oldName ++ " -> " ++
    Text.str rule.newName ++ " (declaration '" ++
    Text.str rule.declaration ++ "', wrapper '" ++
    Text.str rule.wrapOpen ++ "' ... '" ++
    Text.str rule.wrapClose ++ "')"

namespace Program

variable {m : Type → Type} [Monad m] [Host m]

------------------------------------------------------------
-- Standard Input
------------------------------------------------------------

/- Whether settings ask for something else than the text. -/
def isPreview
    (settings : Settings) : Bool :=
  settings.json || settings.dryRun || settings.diff

/- Rewrite the standard input. -/
def runInput
    (session : Session) : Task m RunResult := do
  let processed ← session.loadInput
  let document := processed.document
  session.report (m := m) document
  if isPreview session.settings then
    session.present (m := m) true document
  else
    Host.output (m := m) (Text.str document.rewritten)
  session.summarize (m := m) processed.stats
    (Tally.record {} document.outcome) 0
  return {
    dryRun := session.settings.dryRun
    wouldChange := document.wouldChange
    incomplete := document.outcome.isFailure }

------------------------------------------------------------
-- Files
------------------------------------------------------------

/- What to say if there are no files. -/
def nothingToDo
    (settings : Settings) : String :=
  if settings.recursive then
    "Warning: No files matched pattern '" ++
      Text.str settings.glob ++ "' in provided paths"
  else
    "Warning: No input files listed"

/- Say that there are no files. -/
def warnNothing
    (session : Session) : m Unit :=
  let warning := nothingToDo session.settings
  if session.console.verbose then
    session.console.say .dim warning
  else
    Host.complainLine warning

/- Rewrite the files that the options lead to. -/
def runFiles
    (session : Session)
    (options : Options) : Task m RunResult := do
  let found ← Inputs.resolve options session.settings
  for complaint in found.complaints do
    session.console.say (m := m) .dim
      ("Warning: " ++ complaint)
  if session.settings.watch then
    Watch.run session found.files
  else if found.files.isEmpty then
    warnNothing (m := m) session
    return { dryRun := session.settings.dryRun }
  else
    Batch.run session found.files

------------------------------------------------------------
-- Runs
------------------------------------------------------------

/- Open a session and tell which rules there are. -/
def start
    (options : Options) : Task m Session := do
  let settings ← Settings.load options
  let console ← (Console.ofSettings settings : m Console)
  for rule in settings.rules do
    console.say (m := m) .dim rule.describe
  return { settings, console }

/- Run the program on what the options say. -/
def run
    (options : Options) : Task m RunResult := do
  match options.check with
  | .error failure => throw failure
  | .ok () =>
      let session ← start options
      if options.hasInputs then
        runFiles session options
      else
        runInput session

/- Do what the options ask for, up to the exit code. -/
def execute
    (options : Options) : Task m Nat :=
  match options.command with
  | some command => command.run
  | none => do
      return (← run options).exitCode

end Program

end NotifyScope
