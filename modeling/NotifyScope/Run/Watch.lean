import NotifyScope.Report.Tally
import NotifyScope.Run.Output

/-
  This file rewrites files each time that they change.

  Key definitions include:
    * `Watch.rewrite`
    * `Watch.State`
    * `Watch.onChange`
    * `Watch.run`
-/

namespace NotifyScope

namespace Watch

variable {m : Type → Type} [Monad m] [Host m]

------------------------------------------------------------
-- Files
------------------------------------------------------------

/- Rewrite a file, and tell whether it was saved. -/
def rewrite
    (session : Session)
    (path : Path) : Task m (Document × Bool) := do
  let document := (← session.load path).document
  session.report (m := m) document
  if document.wouldChange then
    session.store path document
  Host.complainLine (m := m) document.watchReport
  pure (document, document.wouldChange)

/- The files to watch, all of which have to exist. -/
def targets :
    List Path → Task m (List Path)
  | [] => pure []
  | path :: rest => do
      if ← Host.isFile (m := m) path then
        let target ← Host.attempt
          ("Failed to resolve path: " ++ Text.str path)
          (Host.canonical (m := m) path)
        return target :: (← targets rest)
      else
        throw
          (.system
            ("--watch requires existing files: " ++
              Text.str path))

------------------------------------------------------------
-- Changes
------------------------------------------------------------

/- What happened since the watch began. -/
structure State where
  tally : WatchLog := {}
  /- When changes were last looked at. -/
  lastChange : Option Nat := none
deriving DecidableEq, Repr

namespace State

/- Whether changes come too soon after the last ones. -/
def isTooSoon
    (debounce now : Nat)
    (state : State) : Bool :=
  match state.lastChange with
  | none => false
  | some last => now - last < debounce

end State

/- Rewrite a file that changed, if it is one to watch. -/
def onFile
    (session : Session)
    (targets : List Path)
    (tally : WatchLog)
    (path : Path) : m WatchLog := do
  match ← Host.canonical path with
  | .error _ => pure tally
  | .ok path =>
      if !targets.contains path then
        pure tally
      else
        let result ←
          (rewrite session path :
            Task m (Document × Bool)).run
        match result with
        | .ok (document, written) =>
            pure (tally.record document.outcome written)
        | .error failure =>
            Host.complainLine
              ("✗ " ++ Text.str path ++ ": " ++
                failure.chain)
            pure tally

/- Rewrite the files that changed at some time. -/
def onChange
    (session : Session)
    (targets : List Path)
    (state : State)
    (now : Nat)
    (paths : List Path) : m State :=
  if state.isTooSoon session.settings.debounce now then
    pure state
  else do
    let tally ←
      paths.foldlM (onFile session targets) state.tally
    return { tally, lastChange := some now }

------------------------------------------------------------
-- Runs
------------------------------------------------------------

/- Watch files until the user has enough. -/
def run
    (session : Session)
    (paths : List Path) : Task m RunResult := do
  let targets ← targets paths
  Host.complainLine (m := m)
    ("Watching " ++ toString targets.length ++
      " file(s) for changes (Ctrl+C to stop)...")
  let state ←
    (Host.watch targets {} (onChange session targets) :
      m State)
  Host.complainLine (m := m) "\nWatch mode stopped."
  return state.tally.outcome

end Watch

end NotifyScope
