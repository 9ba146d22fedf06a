import NotifyScope.Settings.Effective

/-
  This file runs the commands about the settings file.

  Key definitions include:
    * `ConfigCommand.template`
    * `Settings.describe`
    * `ConfigCommand.run`
-/

namespace NotifyScope

------------------------------------------------------------
-- Texts
------------------------------------------------------------

namespace ConfigCommand

/- The text of a new settings file. -/
def template : String :=
  "# .scopewraprc - scopewrap configuration file

# Spaces per indentation level, used when the method body does not show one
indent_unit = 2

# Shift wrapped body lines one level to the right
# reindent = true

# Directory that file names are resolved against (relative to this file)
# base_dir = \"lib/ui/activities\"

# Output options
# verbose = false
# color = \"auto\"
# json = false

# Backup options
# backup = false
# backup_ext = \".bak\"

# Recursive mode defaults
# recursive = false
# glob = \"*.dart\"
# gitignore = true
# max_depth = 0

# Rewrite rules, applied in order. Without any [[rule]] table the built-in
# _generateQuestion -> generateNewQuestion rule below is used.
[[rule]]
from = \"_generateQuestion\"
to = \"generateNewQuestion\"
declaration = \"void \x7bname\x7d()\"
marker = \"@override\"
wrap_open = \"setState(() \x7b\"
wrap_close = \"\x7d);\"
legacy_close = \"\x7d); // setState\"
"

end ConfigCommand

namespace Rule

/- The lines that show a rule with its number. -/
def describeLines
    (number : Nat)
    (rule : Rule) : List String :=
  let marker := (rule.marker.map Text.str).getD "(none)"
  ["  rule " ++ toString number ++ ":",
    "    " ++ Text.str rule.oldName ++ " -> " ++
      Text.str rule.newName,
    "    declaration: " ++ Text.str rule.declaration,
    "    marker: " ++ marker,
    "    wrap: " ++ Text.str rule.wrapOpen ++ " ... " ++
      Text.str rule.wrapClose,
    "    legacy close: " ++ Text.str rule.legacyClose]

end Rule

namespace Settings

/- The lines that show settings. -/
def describe
    (settings : Settings) : List String :=
  let field := fun name value => "  " ++ name ++ ": " ++ value
  let unit := toString settings.layout.unit.length
  let rules := settings.rules.zipIdx.flatMap fun (rule, i) =>
    rule.describeLines (i + 1)
  ["Effective configuration:",
    field "indent_unit" unit,
    field "reindent" (toString settings.layout.reindent)] ++
  (settings.baseDirectory.toList.map fun directory =>
    field "base_dir" (Text.str directory)) ++
  [field "verbose" (toString settings.verbose),
    field "color" settings.color.name,
    field "json" (toString settings.json),
    field "backup" (toString settings.backup),
    field "backup_ext" (Text.str settings.backupExtension),
    field "recursive" (toString settings.recursive),
    field "glob" (Text.str settings.glob),
    field "gitignore" (toString settings.useIgnoreFiles),
    field "max_depth" (toString settings.maxDepth)] ++
  rules

end Settings

------------------------------------------------------------
-- Commands
------------------------------------------------------------

namespace ConfigCommand

variable {m : Type → Type} [Monad m] [Host m]

/- Where a new settings file goes. -/
def newPath
    (isGlobal : Bool) : Task m Path := do
  let name := ".scopewraprc".toList
  if isGlobal then
    match ← (Host.homeDirectory : m _) with
    | some home => pure (Path.join home name)
    | none =>
        throw
          (.system "Could not determine home directory")
  else
    pure name

/- Create a settings file, unless there is one. -/
def create
    (isGlobal : Bool) : Task m Unit := do
  let file ← newPath isGlobal
  if ← Host.isThere (m := m) file then
    throw
      (.system
        ("Config file already exists: " ++ Text.str file))
  Host.attempt
    ("Failed to create config file: " ++ Text.str file)
    (Host.write (m := m) file
      (Utf8.encode template.toList))
  Host.complainLine (m := m)
    ("Created config file: " ++ Text.str file)

/- The settings file for the current directory. -/
def current? : m (Option Path) := do
  SettingsSearch.find? (← SettingsSearch.here)

/- Show the settings of a run without options. -/
def showSettings : Task m Unit := do
  let settings ← Settings.load {}
  for line in settings.describe do
    Host.complainLine (m := m) line
  match ← (current? : m _) with
  | none => pure ()
  | some file =>
      Host.complainLine (m := m) ""
      Host.complainLine (m := m)
        ("Config file: " ++ Text.str file)

/- Show where the settings file is, if there is one. -/
def showPath : m Nat := do
  match ← current? with
  | some file =>
      Host.outputLine (Text.str file)
      pure 0
  | none =>
      Host.complainLine "No config file found"
      pure 1

/- Run a command, up to the exit code. -/
def run : ConfigCommand → Task m Nat
  | .init isGlobal => do
      create isGlobal
      pure 0
  | .display => do
      showSettings
      pure 0
  | .path => (showPath : m Nat)

end ConfigCommand

end NotifyScope
