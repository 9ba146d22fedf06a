import NotifyScope.Host.Basic
import NotifyScope.Ignore.GitConfig
import NotifyScope.Ignore.Pattern

/-
  This file collects the ignore files that apply to a
  directory and says which paths they leave out.

  Key definitions include:
    * `IgnoreLevel`
    * `IgnoreRules`
    * `IgnoreRules.verdict?`
    * `IgnoreRules.start`
    * `IgnoreRules.enter`
-/

namespace NotifyScope

------------------------------------------------------------
-- Levels
------------------------------------------------------------

/- The ignore files of one directory. -/
structure IgnoreLevel where
  directory : Path
  /- Whether it lies above the directory that is searched. -/
  isAbove : Bool := false
  /- Whether it is the top of a repository. -/
  isRepository : Bool := false
  /- The file for every tool. -/
  general : IgnoreFile := {}
  /- The file for Git. -/
  git : IgnoreFile := {}
  /- The file in the data of a repository. -/
  exclude : IgnoreFile := {}

/- The ignore files that apply in a directory. -/
structure IgnoreRules where
  /- The levels, the innermost one first. -/
  levels : List IgnoreLevel := []
  /- The absolute path of the directory that is searched. -/
  base : Option Path := none
  /- The user's own file. -/
  user : IgnoreFile := {}

namespace IgnoreRules

------------------------------------------------------------
-- Verdicts
------------------------------------------------------------

/- The levels up to the first top of a repository. -/
def untilRepository
    {α : Type} :
    List (IgnoreLevel × α) → List (IgnoreLevel × α)
  | [] => []
  | (level, a) :: rest =>
      if level.isRepository then
        [(level, a)]
      else
        (level, a) :: untilRepository rest

/-
  A path as seen from above the directory that is searched:
  its absolute path, with what leads to the directory taken
  off once.
-/
def absolutePath
    (own : List IgnoreLevel)
    (base path : Path) : Path :=
  match own.getLast? with
  | none => Path.join base path
  | some level =>
      if Path.components level.directory = [.current] then
        Path.join base path
      else
        Path.join base
          (Path.strip ['/']
            (Path.strip
              (Path.stripHere level.directory) path))

/- Each level with the path that it is asked about. -/
def questions
    (rules : IgnoreRules)
    (path : Path) : List (IgnoreLevel × Path) :=
  let own := rules.levels.takeWhile fun level =>
    !level.isAbove
  let above := rules.levels.dropWhile fun level =>
    !level.isAbove
  own.map (fun level => (level, path)) ++
    match rules.base with
    | none => []
    | some base =>
        above.map fun level =>
          (level, absolutePath own base path)

/-
  What is done with a path.  The files for every tool come
  first, then those for Git, and the innermost first.  Those
  for Git count only in a repository and up to its top.
-/
def verdict?
    (rules : IgnoreRules)
    (path : Path)
    (isDirectory : Bool) : Option Verdict :=
  let path := Path.stripHere path
  let all := rules.questions path
  let ask := fun (choose : IgnoreLevel → IgnoreFile)
      (levels : List (IgnoreLevel × Path)) =>
    levels.findSome? fun (level, seen) =>
      (choose level).verdict? seen isDirectory
  let general := ask IgnoreLevel.general all
  if rules.levels.any IgnoreLevel.isRepository then
    let inside := untilRepository all
    ((general.or (ask IgnoreLevel.git inside)).or
      (ask IgnoreLevel.exclude inside)).or
        (rules.user.verdict? path isDirectory)
  else
    general

/- Whether a path is left out. -/
def ignores
    (rules : IgnoreRules)
    (path : Path)
    (isDirectory : Bool) : Bool :=
  rules.verdict? path isDirectory == some .ignore

------------------------------------------------------------
-- Reading
------------------------------------------------------------

variable {m : Type → Type} [Monad m] [Host m]

/- Read an ignore file, if it exists. -/
def readPatterns
    (root path : Path) : m IgnoreFile.Reading := do
  match ← Host.read path with
  | .ok content =>
      pure (IgnoreFile.parse root path content.toBytes)
  | .error _ => pure { file := {} }

/- The first line of a file. -/
def firstLine?
    (path : Path) : m (Option Text) := do
  match ← Host.read path with
  | .error _ => pure none
  | .ok content =>
      match IgnoreFile.splitBytes content.toBytes with
      | [] => pure none
      | line :: _ => pure (Utf8.decode line).toOption

/-
  The directory with the data of a repository.  In a linked
  working tree, a file leads to it.
-/
def dataDirectory?
    (directory : Path) : m (Option Path) := do
  let git := Path.join directory ".git".toList
  if ← Host.isFile git then
    let some line ← firstLine? git | return none
    let mark := "gitdir: ".toList
    let some tree := Path.strip? mark line | return none
    let common := Path.join tree "commondir".toList
    let some line ← firstLine? common | return none
    if line.head? = some '.' then
      return some (Path.join tree line)
    else
      return some line
  else
    return some git

/- Read the ignore files of a directory. -/
def readLevel
    (directory : Path)
    (isAbove : Bool) :
    m (IgnoreLevel × List String) := do
  let inside := fun (name : String) =>
    Path.join directory name.toList
  let isRepository :=
    (← Host.isThere (inside ".git")) ||
      (← Host.isThere (inside ".jj"))
  let general ← readPatterns directory (inside ".ignore")
  let git ← readPatterns directory (inside ".gitignore")
  let exclude ←
    match ← dataDirectory? directory with
    | none => pure { file := {} }
    | some data =>
        readPatterns directory
          (Path.join data "info/exclude".toList)
  pure
    ({ directory
       isAbove
       isRepository
       general := general.file
       git := git.file
       exclude := exclude.file },
      general.complaints ++ git.complaints ++
        exclude.complaints)

/- Search a configuration of Git. -/
def configuredFile?
    (home : Option Path)
    (path : Path) : m (Option Path) := do
  match ← Host.read path with
  | .error _ => pure none
  | .ok content =>
      pure (GitConfig.excludesFile? home content.toBytes)

/- The path of the user's own ignore file. -/
def userFilePath? : m (Option Path) := do
  let home ← Host.homeDirectory
  let chosen ← Host.environment "XDG_CONFIG_HOME"
  let config :=
    match chosen with
    | some text =>
        if text.isEmpty then
          home.map fun home => Path.join home ".config".toList
        else
          some text.toList
    | none =>
        home.map fun home => Path.join home ".config".toList
  let first ←
    match home with
    | none => pure none
    | some home =>
        configuredFile? (some home)
          (Path.join home ".gitconfig".toList)
  if first.isSome then
    return first
  let some config := config | return none
  let second ←
    configuredFile? home
      (Path.join config "git/config".toList)
  if second.isSome then
    return second
  return some (Path.join config "git/ignore".toList)

/- Read the user's own ignore file. -/
def readUserFile : m IgnoreFile := do
  match ← userFilePath? with
  | none => pure {}
  | some path =>
      let root := (← Host.workingDirectory).getD []
      return (← readPatterns root path).file

------------------------------------------------------------
-- Walking
------------------------------------------------------------

/- Go into a directory. -/
def enter
    (rules : IgnoreRules)
    (directory : Path) : m IgnoreRules := do
  let (level, _) ← readLevel directory false
  pure { rules with levels := level :: rules.levels }

/- Read the levels above a directory, the outermost first. -/
def readAbove :
    List Path → IgnoreRules → List String →
      m (IgnoreRules × List String)
  | [], rules, complaints => pure (rules, complaints)
  | directory :: rest, rules, complaints => do
      let (level, more) ← readLevel directory true
      readAbove rest
        { rules with levels := level :: rules.levels }
        (complaints ++ more)

/-
  The rules above a directory that is to be searched, and
  what is wrong with their files.
-/
def start
    (directory : Path) :
    m (IgnoreRules × List String) := do
  let user ← readUserFile
  match ← Host.canonical directory with
  | .error _ => pure ({ user }, [])
  | .ok base =>
      readAbove (Path.ancestors base).tail.reverse
        { user, base := some base } []

end IgnoreRules

end NotifyScope
