import NotifyScope.Host.Basic
import NotifyScope.Options.Basic
import NotifyScope.Rule.Basic
import NotifyScope.Settings.Document

/-
  This file defines what a settings file can set, and loads
  such a file.

  Key definitions include:
    * `FileSettings`
    * `FileSettings.ofEntries?`
    * `FileSettings.parse?`
    * `FileSettings.load`
-/

namespace NotifyScope

------------------------------------------------------------
-- Values
------------------------------------------------------------

namespace Setting

/- The text that a value is. -/
def text? : Setting → Option Text
  | string value => some value
  | _ => none

/- The truth value that a value is. -/
def boolean? : Setting → Option Bool
  | boolean value => some value
  | _ => none

/- The number from zero on that a value is. -/
def natural? : Setting → Option Nat
  | integer (.ofNat value) => some value
  | _ => none

/- Whether a value holds no other one. -/
def isHollow : Setting → Bool
  | array values => values.isEmpty
  | table _ entries => entries.isEmpty
  | _ => false

/-
  The colour mode that a value is: its word, or a table with
  the word as its only key and nothing under it.
-/
def color? : Setting → Option ColorMode
  | string value => ColorMode.ofWord? value
  | table _ [(key, value)] =>
      if value.isHollow then ColorMode.ofWord? key else none
  | _ => none

end Setting

namespace Entries

/-
  The value of a key, which may be missing but may not be of
  another kind.
-/
def optional?
    {α : Type}
    (entries : Entries)
    (key : String)
    (kind : Setting → Option α) : Option (Option α) :=
  match entries.get? key.toList with
  | none => some none
  | some setting => (kind setting).map some

/- The value of a key that may not be missing. -/
def required?
    {α : Type}
    (entries : Entries)
    (key : String)
    (kind : Setting → Option α) : Option α :=
  (entries.get? key.toList).bind kind

end Entries

------------------------------------------------------------
-- Rules
------------------------------------------------------------

namespace RuleSpec

/- The rule in a table.  Other keys do not count. -/
def ofEntries?
    (entries : Entries) : Option RuleSpec := do
  let optional := fun key =>
    entries.optional? key Setting.text?
  return {
    oldName := ← entries.required? "from" Setting.text?
    newName := ← entries.required? "to" Setting.text?
    declaration := ← optional "declaration"
    marker := ← optional "marker"
    wrapOpen := ← optional "wrap_open"
    wrapClose := ← optional "wrap_close"
    legacyClose := ← optional "legacy_close" }

/- The rule in an array, with all of its texts in order. -/
def ofTexts? : List Text → Option RuleSpec
  | oldName :: newName :: declaration :: marker ::
      wrapOpen :: wrapClose :: legacyClose :: _ =>
      some
        { oldName, newName
          declaration := some declaration
          marker := some marker
          wrapOpen := some wrapOpen
          wrapClose := some wrapClose
          legacyClose := some legacyClose }
  | _ => none

/- The number of texts that a rule has. -/
def textCount : Nat := 7

/- The rule that a value is. -/
def ofSetting? : Setting → Option RuleSpec
  | .table _ entries => ofEntries? entries
  | .array values =>
      ((values.take textCount).mapM Setting.text?).bind
        ofTexts?
  | _ => none

/- The rules that a value is, in the order of the file. -/
def listOfSetting? : Setting → Option (List RuleSpec)
  | .array values => values.mapM ofSetting?
  | .tables elements => elements.reverse.mapM ofEntries?
  | _ => none

end RuleSpec

------------------------------------------------------------
-- Files
------------------------------------------------------------

/- What a file sets.  All of it may be missing. -/
structure FileSettings where
  indentUnit : Option Nat := none
  reindent : Option Bool := none
  /- From where the file is. -/
  baseDirectory : Option Path := none
  verbose : Option Bool := none
  color : Option ColorMode := none
  json : Option Bool := none
  backup : Option Bool := none
  backupExtension : Option Text := none
  recursive : Option Bool := none
  glob : Option Text := none
  useIgnoreFiles : Option Bool := none
  maxDepth : Option Nat := none
  rules : List RuleSpec := []
deriving DecidableEq, Repr

namespace FileSettings

/-
  The settings in the table of a document.  Keys that mean
  nothing do not count.
-/
def ofEntries?
    (entries : Entries) : Option FileSettings := do
  let text := fun key =>
    entries.optional? key Setting.text?
  let flag := fun key =>
    entries.optional? key Setting.boolean?
  let number := fun key =>
    entries.optional? key Setting.natural?
  let rules ←
    entries.optional? "rule" RuleSpec.listOfSetting?
  return {
    indentUnit := ← number "indent_unit"
    reindent := ← flag "reindent"
    baseDirectory := ← text "base_dir"
    verbose := ← flag "verbose"
    color := ← entries.optional? "color" Setting.color?
    json := ← flag "json"
    backup := ← flag "backup"
    backupExtension := ← text "backup_ext"
    recursive := ← flag "recursive"
    glob := ← text "glob"
    useIgnoreFiles := ← flag "gitignore"
    maxDepth := ← number "max_depth"
    rules := rules.getD [] }

/- The settings in a text. -/
def parse?
    (text : Text) : Option FileSettings :=
  (Entries.parse? text).bind ofEntries?

------------------------------------------------------------
-- Loading
------------------------------------------------------------

variable {m : Type → Type} [Monad m] [Host m]

/- The failure for a file that holds no settings. -/
def malformed
    (path : Path) : Failure :=
  (Failure.system "malformed settings").within
    ("Failed to parse config file: " ++ Text.str path)

/- Load the settings in a file. -/
def load
    (path : Path) : Task m FileSettings := do
  let text ← Host.attempt
    ("Failed to read config file: " ++ Text.str path)
    (Host.readText (m := m) path)
  match parse? text with
  | none => throw (malformed path)
  | some settings => pure settings

end FileSettings

end NotifyScope
