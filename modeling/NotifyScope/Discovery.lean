import NotifyScope.Glob.Filter
import NotifyScope.Ignore.Rules

/-
  This file finds the files below the paths that a user
  names.

  Key definitions include:
    * `Search`
    * `Search.walk`
    * `Search.discover`
-/

namespace NotifyScope

------------------------------------------------------------
-- Searches
------------------------------------------------------------

/- What to look for. -/
structure Search where
  /- The names of files. -/
  names : NameFilter
  /- Whether ignore files count. -/
  useIgnoreFiles : Bool
  /- How deep to look, or zero for any depth. -/
  maxDepth : Nat

/- Files in their order, and what went wrong. -/
structure Discovery where
  files : List Path := []
  complaints : List String := []
deriving DecidableEq, Repr

namespace Discovery

/- Add a file. -/
def addFile
    (discovery : Discovery)
    (path : Path) : Discovery :=
  { discovery with
    files := Path.insertSorted path discovery.files }

/- Add what went wrong. -/
def complain
    (discovery : Discovery)
    (complaints : List String) : Discovery :=
  { discovery with
    complaints := discovery.complaints ++ complaints }

end Discovery

namespace Search

variable {m : Type → Type} [Monad m] [Host m]

------------------------------------------------------------
-- Walking
------------------------------------------------------------

/-
  Visit the entries of a directory.  The fuel bounds how deep
  directories are nested, which the length of a path does.
-/
def walk
    (search : Search) :
    (fuel depth : Nat) → IgnoreRules → Path → Discovery →
      m Discovery
  | 0, _, _, _, discovery => pure discovery
  | fuel + 1, depth, rules, directory, discovery => do
      let rules ←
        if search.useIgnoreFiles then
          rules.enter directory
        else
          pure rules
      if search.maxDepth ≠ 0 ∧ search.maxDepth ≤ depth then
        return discovery
      match ← Host.entries directory with
      | .error error =>
          pure
            (discovery.complain
              ["IO error for operation on " ++
                Text.str directory ++ ": " ++
                error.message])
      | .ok entries =>
          entries.foldlM
            (fun discovery entry => do
              let path := Path.join directory entry.name
              if search.useIgnoreFiles &&
                  rules.ignores path entry.isDirectory then
                pure discovery
              else if entry.isDirectory then
                walk search fuel (depth + 1) rules path
                  discovery
              else if search.names.covers entry.name then
                if ← Host.isFile path then
                  pure (discovery.addFile path)
                else
                  pure discovery
              else
                pure discovery)
            discovery

/- No path has more components than this. -/
def depthBound : Nat := 4096

/-
  Search a path.  A file is found whatever its name is.  A
  single minus stands for the input, where nothing is.
-/
def visit
    (search : Search)
    (discovery : Discovery)
    (path : Path) : m Discovery := do
  if ← Host.isFile path then
    pure (discovery.addFile path)
  else if !(← Host.isDirectory path) then
    pure
      (discovery.complain
        ["path does not exist: " ++ Text.str path])
  else if Path.components path = [.name ['-']] then
    pure discovery
  else if search.useIgnoreFiles then
    let (rules, complaints) ← IgnoreRules.start path
    let complaints :=
      if complaints.isEmpty then
        []
      else
        ["\n".intercalate complaints]
    search.walk depthBound 0 rules path
      (discovery.complain complaints)
  else
    search.walk depthBound 0 {} path discovery

/- Search paths one after the other. -/
def discover
    (search : Search)
    (paths : List Path) : m Discovery :=
  paths.foldlM search.visit {}

end Search

end NotifyScope
