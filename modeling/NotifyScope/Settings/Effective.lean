import NotifyScope.Rewrite.Apply
import NotifyScope.Settings.File
import NotifyScope.Settings.Locate

/-
  This file defines the settings that a run goes by: those of
  the options and, where an option has its standard value,
  those of the settings file.

  Key definitions include:
    * `Settings`
    * `Settings.merge`
    * `Settings.load`
-/

namespace NotifyScope

------------------------------------------------------------
-- Settings
------------------------------------------------------------

/- The settings of a run. -/
structure Settings where
  /- The rules, which are applied in this order. -/
  rules : List Rule
  layout : Layout
  /- Where relative inputs start. -/
  baseDirectory : Option Path
  recursive : Bool
  glob : Text
  useIgnoreFiles : Bool
  /- How deep to look, or zero for any depth. -/
  maxDepth : Nat
  color : ColorMode
  verbose : Bool
  diff : Bool
  dryRun : Bool
  watch : Bool
  /- In milliseconds. -/
  debounce : Nat
  backup : Bool
  backupExtension : Text
  json : Bool
deriving Repr

/- What a settings file sets, and where it is. -/
structure LoadedSettings where
  path : Path
  settings : FileSettings
deriving DecidableEq, Repr

------------------------------------------------------------
-- Rules
------------------------------------------------------------

namespace RuleSpec

/- The specification with what the options say about it. -/
def override
    (options : Options)
    (spec : RuleSpec) : RuleSpec :=
  { spec with
    declaration := options.declaration.or spec.declaration
    marker :=
      if options.noMarker then
        some []
      else
        options.marker.or spec.marker
    wrapOpen := options.wrapOpen.or spec.wrapOpen
    wrapClose := options.wrapClose.or spec.wrapClose
    legacyClose := options.legacyClose.or spec.legacyClose }

/- The rules that the options and the file ask for. -/
def chosen
    (options : Options)
    (file : FileSettings) : List RuleSpec :=
  let specs : List RuleSpec :=
    match options.oldName, options.newName with
    | some oldName, some newName => [{ oldName, newName }]
    | _, _ =>
        if file.rules.isEmpty then [builtIn] else file.rules
  specs.map (override options)

/- Accept all specifications or refuse the first bad one. -/
def checkAll :
    List RuleSpec → Except Failure (List Rule)
  | [] => .ok []
  | spec :: rest =>
      match spec.check with
      | .error error => .error (.argument error.message)
      | .ok rule =>
          match checkAll rest with
          | .error failure => .error failure
          | .ok rules => .ok (rule :: rules)

end RuleSpec

------------------------------------------------------------
-- Merging
------------------------------------------------------------

namespace Settings

/-
  The value of a setting: the one of the file, if the option
  has its standard value and the file sets it.
-/
def choose
    {α : Type}
    [DecidableEq α]
    (option standard : α)
    (inFile : Option α) : α :=
  if option = standard then inFile.getD option else option

/- Spaces for a level, as a file asks for it. -/
def fileUnit
    (options : Options)
    (file : LoadedSettings) : Except Failure Nat :=
  match file.settings.indentUnit with
  | none => .ok options.indentUnit
  | some width =>
      if options.indentUnit ≠ ({} : Options).indentUnit then
        .ok options.indentUnit
      else if width = 0 ∨ 8 < width then
        .error
          (.argument
            ("indent_unit in " ++ Text.str file.path ++
              " must be between 1 and 8"))
      else
        .ok width

/-
  The base directory in a file, where a relative one is seen
  from the directory of the file.
-/
def anchored
    (file : LoadedSettings) : Option Path :=
  file.settings.baseDirectory.map fun directory =>
    match Path.parent? file.path with
    | some parent => Path.join parent directory
    | none => directory

/- The settings, once the level and the rules are known. -/
def ofParts
    (options : Options)
    (file : FileSettings)
    (baseDirectory : Option Path)
    (unit : Nat)
    (rules : List Rule) : Settings :=
  let standard : Options := {}
  { rules
    layout :=
      { unit := List.replicate unit ' '
        reindent :=
          choose (!options.noReindent) true file.reindent }
    baseDirectory := options.baseDirectory.or baseDirectory
    recursive :=
      choose options.recursive false file.recursive
    glob := choose options.glob standard.glob file.glob
    useIgnoreFiles :=
      choose (!options.noGitignore) true file.useIgnoreFiles
    maxDepth :=
      choose options.maxDepth standard.maxDepth file.maxDepth
    color := choose options.color .auto file.color
    verbose := choose options.verbose false file.verbose
    diff := options.diff
    dryRun := options.dryRun
    watch := options.watch
    debounce := options.debounce
    backup := choose options.backup false file.backup
    backupExtension :=
      choose options.backupExtension
        standard.backupExtension file.backupExtension
    json := choose options.json false file.json }

/- The settings of a run, with or without a file. -/
def merge
    (options : Options)
    (file : Option LoadedSettings) :
    Except Failure Settings := do
  let unit ←
    match file with
    | none => pure options.indentUnit
    | some file => fileUnit options file
  let settings := (file.map (·.settings)).getD {}
  let rules ←
    RuleSpec.checkAll (RuleSpec.chosen options settings)
  return ofParts options settings (file.bind anchored)
    unit rules

------------------------------------------------------------
-- Loading
------------------------------------------------------------

variable {m : Type → Type} [Monad m] [Host m]

/- The path of the settings file of a run, if there is one. -/
def path?
    (options : Options) : Task m (Option Path) := do
  if options.noSettings then
    pure none
  else
    match options.settingsFile with
    | none =>
        let start ← SettingsSearch.start (m := m) options
        SettingsSearch.find? (m := m) start
    | some path =>
        if ← Host.isThere (m := m) path then
          pure (some path)
        else
          throw
            (.system
              ("Config file not found: " ++ Text.str path))

/- The settings of a run. -/
def load
    (options : Options) : Task m Settings := do
  match ← path? options with
  | none => ExceptT.mk (pure (merge options none))
  | some path =>
      let settings ← FileSettings.load path
      ExceptT.mk
        (pure (merge options (some { path, settings })))

end Settings

end NotifyScope
