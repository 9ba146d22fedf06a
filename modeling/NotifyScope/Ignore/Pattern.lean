import NotifyScope.Glob.Parse
import NotifyScope.Path

/-
  This file reads the patterns of an ignore file and says
  what they do with a path.

  Key definitions include:
    * `IgnorePattern`
    * `IgnorePattern.parse?`
    * `IgnoreFile`
    * `IgnoreFile.parse`
    * `IgnoreFile.verdict?`
-/

namespace NotifyScope

------------------------------------------------------------
-- Verdicts
------------------------------------------------------------

/- What is done with a path. -/
inductive Verdict where
  | ignore
  | keep
deriving DecidableEq, Repr

------------------------------------------------------------
-- Patterns
------------------------------------------------------------

/- A pattern of an ignore file. -/
structure IgnorePattern where
  glob : Glob
  verdict : Verdict
  /- Whether it applies to directories only. -/
  onlyDirectories : Bool

namespace IgnorePattern

/- How patterns of paths are read. -/
def dialect : Glob.Dialect :=
  { forPaths := true, unclosedClasses := true }

/- Whether a text starts with another one. -/
def startsWith
    (start : String)
    (text : Text) : Bool :=
  start.toList.isPrefixOf text

/- Whether a text ends with another one. -/
def endsWith
    (tail : String)
    (text : Text) : Bool :=
  tail.toList.isSuffixOf text

/- Where a pattern applies. -/
structure Scope where
  verdict : Verdict
  /- Whether the pattern starts at the directory itself. -/
  anchored : Bool
  pattern : Text
deriving DecidableEq, Repr

/- Take the signs off the start of a pattern. -/
def readScope
    (line : Text) : Scope :=
  if startsWith "\\!" line || startsWith "\\#" line then
    { verdict := .ignore
      anchored := false
      pattern := line.tail }
  else
    let negated := startsWith "!" line
    let rest := if negated then line.tail else line
    let anchored := startsWith "/" rest
    { verdict := if negated then .keep else .ignore
      anchored
      pattern := if anchored then rest.tail else rest }

/-
  The glob for a pattern.  One without a separator applies at
  every depth, and one for all in a directory leaves out the
  directory itself.
-/
def expand
    (anchored : Bool)
    (pattern : Text) : Text :=
  let deep :=
    if anchored || pattern.contains '/' ||
        pattern == "**".toList then
      pattern
    else
      "**/".toList ++ pattern
  if endsWith "/**" deep then deep ++ "/*".toList else deep

/- Take the separator off the end, and what escapes it. -/
def dropSeparator
    (pattern : Text) : Text :=
  let rest := pattern.dropLast
  if rest.getLast? = some '\\' then rest.dropLast else rest

/-
  The pattern on a line, or nothing if the line is blank or a
  comment.  Blanks at the end count only behind a backslash.
-/
def parse?
    (line : Text) :
    Except (GlobError × Text) (Option IgnorePattern) :=
  let trimmed :=
    if endsWith "\\ " line then line else Text.trimRight line
  if startsWith "#" line || trimmed.isEmpty then
    .ok none
  else
    let scope := readScope trimmed
    let onlyDirectories := endsWith "/" scope.pattern
    let pattern :=
      if onlyDirectories then
        dropSeparator scope.pattern
      else
        scope.pattern
    match Glob.parse dialect
        (expand scope.anchored pattern) with
    | .error error => .error (error, trimmed)
    | .ok glob =>
        .ok
          (some
            { glob
              verdict := scope.verdict
              onlyDirectories })

end IgnorePattern

------------------------------------------------------------
-- Files
------------------------------------------------------------

/- The patterns of a file and where they apply. -/
structure IgnoreFile where
  /- The directory that the patterns are relative to. -/
  root : Path := []
  patterns : List IgnorePattern := []

namespace Path

/- A path without a prefix, compared by characters. -/
def strip?
    (start path : Path) : Option Path :=
  if start.isPrefixOf path then
    some (path.drop start.length)
  else
    none

/- A path without a prefix, if it has it. -/
def strip
    (start path : Path) : Path :=
  (strip? start path).getD path

/- A path without a dot and a separator in front of it. -/
def stripHere
    (path : Path) : Path :=
  strip ['.', '/'] path

end Path

namespace IgnoreFile

/- The path that the patterns of a file are matched with. -/
def relative
    (file : IgnoreFile)
    (path : Path) : Path :=
  let path := Path.stripHere path
  if file.root = Path.here || !path.contains '/' then
    path
  else
    match Path.strip? file.root path with
    | none => path
    | some rest => Path.strip ['/'] rest

/- What a file says about a path.  Its last match counts. -/
def verdict?
    (file : IgnoreFile)
    (path : Path)
    (isDirectory : Bool) : Option Verdict :=
  let relative := file.relative path
  (file.patterns.reverse.find? fun pattern =>
    (isDirectory || !pattern.onlyDirectories) &&
      pattern.glob.covers relative).map
        IgnorePattern.verdict

------------------------------------------------------------
-- Reading
------------------------------------------------------------

/- What was read, and what is wrong with it. -/
structure Reading where
  file : IgnoreFile
  complaints : List String := []

/-
  Read numbered lines.  A line that is no pattern is left out
  and complained about, with its number.
-/
def readLines
    (path : Path) :
    List (Text × Nat) → List IgnorePattern × List String
  | [] => ([], [])
  | (line, number) :: rest =>
      let (patterns, complaints) := readLines path rest
      match IgnorePattern.parse? line with
      | .ok none => (patterns, complaints)
      | .ok (some pattern) =>
          (pattern :: patterns, complaints)
      | .error (error, written) =>
          let complaint :=
            Text.str path ++ ": line " ++
              toString (number + 1) ++ ": " ++
              error.message written
          (patterns, complaint :: complaints)

/-
  The lines in the bytes of a file, up to a line that is no
  text.
-/
def splitBytes
    (data : List UInt8) : List (List UInt8) :=
  let parts := data.foldr
    (fun byte parts =>
      if byte = 10 then
        [] :: parts
      else
        (byte :: parts.headD []) :: parts.tail)
    [[]]
  if parts.getLast? = some [] then
    parts.dropLast.map dropReturn
  else
    parts.dropLast.map dropReturn ++ parts.getLast?.toList
where
  /- Drop a carriage return in front of a newline. -/
  dropReturn (line : List UInt8) : List UInt8 :=
    if line.getLast? = some 13 then line.dropLast else line

/- The lines that are text, up to the first one that is not. -/
def decodeLines : List (List UInt8) → List Text
  | [] => []
  | line :: rest =>
      match Utf8.decode line with
      | .ok text => text :: decodeLines rest
      | .error _ => []

/- Drop byte order marks at the start of the first line. -/
def dropMarks : List Text → List Text
  | [] => []
  | line :: rest =>
      line.dropWhile (fun c => c.toNat == 0xFEFF) :: rest

/- Read the patterns in the bytes of a file. -/
def parse
    (root path : Path)
    (data : List UInt8) : Reading :=
  let lines := dropMarks (decodeLines (splitBytes data))
  let (patterns, complaints) :=
    readLines path lines.zipIdx
  { file := { root := Path.stripHere root, patterns }
    complaints }

end IgnoreFile

end NotifyScope
