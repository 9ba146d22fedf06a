import NotifyScope.Host.Basic
import NotifyScope.Options.Basic

/-
  This file finds the settings file that applies to a run.

  Key definitions include:
    * `SettingsSearch.names`
    * `SettingsSearch.find?`
    * `SettingsSearch.start`
-/

namespace NotifyScope

namespace SettingsSearch

variable {m : Type → Type} [Monad m] [Host m]

------------------------------------------------------------
-- Files
------------------------------------------------------------

/- The names of a settings file, the first one first. -/
def names : List Text :=
  [".scopewraprc".toList, ".scopewraprc.toml".toList,
    "scopewraprc.toml".toList]

/- The paths of a settings file in some directories. -/
def candidates
    (directories : List Path) : List Path :=
  directories.flatMap fun directory =>
    names.map (Path.join directory)

/- The first path that leads to something. -/
def firstThere? :
    List Path → m (Option Path)
  | [] => pure none
  | path :: rest => do
      if ← Host.isThere path then
        pure (some path)
      else
        firstThere? rest

/-
  The settings file for a directory: in it, in one above it,
  the nearest one first, or in that of the user.
-/
def find?
    (start : Path) : m (Option Path) := do
  match ← firstThere? (candidates (Path.ancestors start)) with
  | some path => pure (some path)
  | none =>
      match ← Host.homeDirectory with
      | none => pure none
      | some home => firstThere? (candidates [home])

------------------------------------------------------------
-- Directories
------------------------------------------------------------

/- The current directory, or nothing if there is none. -/
def here : m Path := do
  return (← Host.workingDirectory).getD []

/- The directory of the first input, if it has a name. -/
def inputDirectory?
    (input : Path) : m (Option Path) := do
  let directory :=
    if ← Host.isDirectory input then
      some input
    else
      Path.parent? input
  return directory.filter fun path => path != []

/- Where to look for the settings file of a run. -/
def start
    (options : Options) : m Path := do
  match options.baseDirectory, options.inputs with
  | some directory, _ => pure directory
  | none, [] => here
  | none, input :: _ =>
      match ← inputDirectory? input with
      | some directory => pure directory
      | none => here

end SettingsSearch

end NotifyScope
