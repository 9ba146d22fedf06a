import NotifyScope.Options.Basic

/-
  This file defines which options and commands there are on a
  command line, and which options need or exclude others.

  Key definitions include:
    * `OptionKey`
    * `OptionForm`
    * `CommandName`
    * `OptionKey.conflicts`
    * `OptionKey.needs?`
-/

namespace NotifyScope

------------------------------------------------------------
-- Options
------------------------------------------------------------

/- An option or the list of inputs. -/
inductive OptionKey where
  | inputs
  | baseDirectory
  | filesFrom
  | settingsFile
  | noSettings
  | recursive
  | glob
  | noGitignore
  | maxDepth
  | oldName
  | newName
  | declaration
  | marker
  | noMarker
  | wrapOpen
  | wrapClose
  | legacyClose
  | indentUnit
  | noReindent
  | verbose
  | color
  | diff
  | dryRun
  | watch
  | debounce
  | backup
  | backupExtension
  | json
  | isGlobal
  | help
  | version
deriving DecidableEq, Repr

/- What an option takes. -/
inductive ValueKind where
  /- Nothing. -/
  | none
  /- Any text. -/
  | text
  /- A text that is not empty. -/
  | path
  /- A number of at most 64 bits. -/
  | number
  /- A colour mode. -/
  | color
deriving DecidableEq, Repr

/- How an option is written. -/
structure OptionForm where
  key : OptionKey
  long : String
  short : Option Char := none
  value : ValueKind := .none
deriving DecidableEq, Repr

namespace OptionForm

/- The option that every command has. -/
def help : OptionForm :=
  { key := .help, long := "help", short := some 'h' }

/- The options of the program itself. -/
def main : List OptionForm :=
  [{ key := .baseDirectory
     long := "base-dir"
     short := some 'C'
     value := .path },
    { key := .filesFrom, long := "files-from"
      value := .path },
    { key := .settingsFile, long := "config"
      value := .path },
    { key := .noSettings, long := "no-config" },
    { key := .recursive, long := "recursive"
      short := some 'r' },
    { key := .glob, long := "glob", value := .text },
    { key := .noGitignore, long := "no-gitignore" },
    { key := .maxDepth, long := "max-depth"
      value := .number },
    { key := .oldName, long := "from", value := .text },
    { key := .newName, long := "to", value := .text },
    { key := .declaration, long := "declaration"
      value := .text },
    { key := .marker, long := "marker", value := .text },
    { key := .noMarker, long := "no-marker" },
    { key := .wrapOpen, long := "wrap-open"
      value := .text },
    { key := .wrapClose, long := "wrap-close"
      value := .text },
    { key := .legacyClose, long := "legacy-close"
      value := .text },
    { key := .indentUnit, long := "indent-unit"
      value := .number },
    { key := .noReindent, long := "no-reindent" },
    { key := .verbose, long := "verbose"
      short := some 'v' },
    { key := .color, long := "color", value := .color },
    { key := .diff, long := "diff", short := some 'd' },
    { key := .dryRun, long := "dry-run"
      short := some 'n' },
    { key := .watch, long := "watch", short := some 'w' },
    { key := .debounce, long := "debounce-ms"
      value := .number },
    { key := .backup, long := "backup" },
    { key := .backupExtension, long := "backup-ext"
      value := .text },
    { key := .json, long := "json" },
    help,
    { key := .version, long := "version"
      short := some 'V' }]

end OptionForm

------------------------------------------------------------
-- Commands
------------------------------------------------------------

/- The program or one of its commands. -/
inductive CommandName where
  | main
  | config
  | init
  | display
  | path
  | help
deriving DecidableEq, Repr

namespace CommandName

/- The commands that can follow a command. -/
def children : CommandName → List (String × CommandName)
  | main => [("config", config), ("help", help)]
  | config =>
      [("init", init), ("show", display), ("path", path),
        ("help", help)]
  | _ => []

/- The command that a word after a command means. -/
def child?
    (command : CommandName)
    (word : Text) : Option CommandName :=
  (command.children.find? fun (name, _) =>
    name.toList == word).map Prod.snd

/- The options of a command. -/
def options : CommandName → List OptionForm
  | main => OptionForm.main
  | init =>
      [{ key := .isGlobal, long := "global" },
        OptionForm.help]
  | _ => [OptionForm.help]

/- An option by its long name. -/
def long?
    (command : CommandName)
    (name : Text) : Option OptionForm :=
  command.options.find? fun form =>
    form.long.toList == name

/- An option by its letter. -/
def short?
    (command : CommandName)
    (letter : Char) : Option OptionForm :=
  command.options.find? fun form =>
    form.short == some letter

/- Whether a command takes inputs. -/
def takesInputs
    (command : CommandName) : Bool :=
  command == main

end CommandName

------------------------------------------------------------
-- Relations
------------------------------------------------------------

namespace OptionKey

/- Two options that exclude each other. -/
def exclusions : List (OptionKey × OptionKey) :=
  [(marker, noMarker), (watch, recursive), (watch, diff),
    (watch, dryRun), (watch, json), (json, verbose),
    (json, diff)]

/- Whether two options exclude each other. -/
def conflicts
    (a b : OptionKey) : Bool :=
  exclusions.contains (a, b) || exclusions.contains (b, a)

/- The option that another one needs. -/
def needs? : OptionKey → Option OptionKey
  | glob | noGitignore | maxDepth => some recursive
  | oldName => some newName
  | newName => some oldName
  | debounce => some watch
  | backupExtension => some backup
  | _ => none

/- Whether two of the options exclude each other. -/
def haveConflict
    (present : List OptionKey) : Bool :=
  present.any fun a => present.any (conflicts a)

/-
  Whether an option that is needed is missing.  One that could
  not be there, because of another option, is not missing.
-/
def lackNeeded
    (present : List OptionKey) : Bool :=
  present.any fun a =>
    match needs? a with
    | none => false
    | some needed =>
        !present.contains needed &&
          !present.any (conflicts needed)

end OptionKey

end NotifyScope
