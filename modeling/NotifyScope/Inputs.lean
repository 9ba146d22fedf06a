import NotifyScope.Discovery
import NotifyScope.Settings.Effective

/-
  This file finds out which files a run is about.

  Key definitions include:
    * `FileList.ofText`
    * `FileList.load`
    * `Inputs.resolve`
-/

namespace NotifyScope

------------------------------------------------------------
-- Lists of Files
------------------------------------------------------------

namespace FileList

/-
  The names in a list, one a line.  Blanks around them, empty
  lines, and lines that start with a number sign do not count.
-/
def ofText
    (text : Text) : List Path :=
  ((Text.lines text).map Text.trim).filter fun line =>
    line != [] && line.head? != some '#'

variable {m : Type → Type} [Monad m] [Host m]

/- The names in the list that a file holds. -/
def load
    (path : Path) : Task m (List Path) := do
  let text ← Host.attempt
    ("Failed to read file list: " ++ Text.str path)
    (Host.readText (m := m) path)
  pure (ofText text)

end FileList

------------------------------------------------------------
-- Inputs
------------------------------------------------------------

namespace Inputs

/- A name as seen from the base directory, if there is one. -/
def anchor
    (baseDirectory : Option Path)
    (name : Path) : Path :=
  match baseDirectory with
  | none => name
  | some directory => Path.join directory name

variable {m : Type → Type} [Monad m] [Host m]

/- The names that the options and the list hold. -/
def names
    (options : Options) : Task m (List Path) :=
  match options.filesFrom with
  | none => pure options.inputs
  | some list => do
      return options.inputs ++ (← FileList.load list)

/-
  The files of a run in their order, and what went wrong as
  they were looked for.
-/
def resolve
    (options : Options)
    (settings : Settings) : Task m Discovery := do
  let paths :=
    (← names options).map (anchor settings.baseDirectory)
  if settings.recursive then
    match NameFilter.parse settings.glob with
    | .error failure => throw failure
    | .ok globs =>
        let search : Search :=
          { names := globs
            useIgnoreFiles := settings.useIgnoreFiles
            maxDepth := settings.maxDepth }
        search.discover (m := m) paths
  else
    pure { files := paths }

end Inputs

end NotifyScope
