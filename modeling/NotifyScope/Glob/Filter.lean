import NotifyScope.Failure
import NotifyScope.Glob.Parse
import NotifyScope.Path

/-
  This file defines the patterns that choose files by their
  names, written with commas between them.

  Key definitions include:
    * `NameFilter`
    * `NameFilter.parse`
    * `NameFilter.covers`
-/

namespace NotifyScope

/- Patterns, one of which has to match. -/
abbrev NameFilter := List Glob

namespace NameFilter

/- In names, wildcards match everything. -/
def dialect : Glob.Dialect :=
  { forPaths := false, unclosedClasses := false }

/- Read one pattern. -/
def parsePattern
    (pattern : Text) : Except Failure Glob :=
  match Glob.parse dialect pattern with
  | .ok glob => .ok glob
  | .error error =>
      .error
        (.argument
          ("Invalid glob pattern '" ++ Text.str pattern ++
            "': " ++ error.message pattern))

/-
  Read the patterns of a text.  Blanks around them and empty
  ones do not count, but there has to be one.
-/
def parse
    (text : Text) : Except Failure NameFilter :=
  let patterns :=
    ((Text.splitOn ',' text).map Text.trim).filter
      fun pattern => !pattern.isEmpty
  match patterns.mapM parsePattern with
  | .error failure => .error failure
  | .ok [] =>
      .error
        (.argument
          "--glob must include at least one pattern")
  | .ok globs => .ok globs

/- Whether one of the patterns matches a name. -/
def covers
    (globs : NameFilter)
    (name : Text) : Bool :=
  globs.any fun glob => glob.covers name

end NameFilter

end NotifyScope
