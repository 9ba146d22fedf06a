import NotifyScope.Failure
import NotifyScope.Path

/-
  This file defines the options of the command line, and what
  can be wrong with them.

  Key definitions include:
    * `ColorMode`
    * `Options`
    * `Options.check`
    * `UsageError`
-/

namespace NotifyScope

------------------------------------------------------------
-- Colours
------------------------------------------------------------

/- When the output has colours. -/
inductive ColorMode where
  /- If it goes to a terminal. -/
  | auto
  | always
  | never
deriving DecidableEq, Repr

namespace ColorMode

/- The word for a mode in options and settings. -/
def word : ColorMode → String
  | auto => "auto"
  | always => "always"
  | never => "never"

/- The name of a mode where it is shown. -/
def name : ColorMode → String
  | auto => "Auto"
  | always => "Always"
  | never => "Never"

/- The mode that a word stands for. -/
def ofWord?
    (text : Text) : Option ColorMode :=
  [auto, always, never].find? fun mode =>
    mode.word.toList == text

end ColorMode

------------------------------------------------------------
-- Options
------------------------------------------------------------

/- A command about the settings file. -/
inductive ConfigCommand where
  /- Create one, in the directory of the user or here. -/
  | init (isGlobal : Bool)
  /- Show the settings that apply. -/
  | display
  /- Show where it is. -/
  | path
deriving DecidableEq, Repr

/- The options of a run. -/
structure Options where
  inputs : List Path := []
  baseDirectory : Option Path := none
  filesFrom : Option Path := none
  settingsFile : Option Path := none
  noSettings : Bool := false
  recursive : Bool := false
  glob : Text := "*.dart".toList
  noGitignore : Bool := false
  maxDepth : Nat := 0
  oldName : Option Text := none
  newName : Option Text := none
  declaration : Option Text := none
  marker : Option Text := none
  noMarker : Bool := false
  wrapOpen : Option Text := none
  wrapClose : Option Text := none
  legacyClose : Option Text := none
  indentUnit : Nat := 2
  noReindent : Bool := false
  verbose : Bool := false
  color : ColorMode := .auto
  diff : Bool := false
  dryRun : Bool := false
  watch : Bool := false
  /- In milliseconds. -/
  debounce : Nat := 500
  backup : Bool := false
  backupExtension : Text := ".bak".toList
  json : Bool := false
  command : Option ConfigCommand := none
deriving DecidableEq, Repr

namespace Options

/- Whether the options name files. -/
def hasInputs
    (options : Options) : Bool :=
  !options.inputs.isEmpty || options.filesFrom.isSome

/- Refuse options that make no sense together. -/
def check
    (options : Options) : Except Failure Unit :=
  if options.indentUnit = 0 ∨ 8 < options.indentUnit then
    .error
      (.argument "--indent-unit must be between 1 and 8")
  else if options.recursive && !options.hasInputs then
    .error
      (.argument
        "--recursive requires at least one input path")
  else if options.watch && !options.hasInputs then
    .error
      (.argument "--watch requires at least one input file")
  else
    .ok ()

end Options

------------------------------------------------------------
-- Usage
------------------------------------------------------------

/- Why a command line leads to no run. -/
inductive UsageError where
  | unknownArgument
  | missingRequiredArgument
  | argumentConflict
  /- A value is missing or is not one of those allowed. -/
  | invalidValue
  /- A value cannot be read. -/
  | valueValidation
  | tooManyValues
  | invalidSubcommand
  /- The help was asked for. -/
  | displayHelp
  /- The help is shown as nothing was asked for. -/
  | displayHelpOnMissing
  | displayVersion
deriving DecidableEq, Repr

namespace UsageError

/- Asking for help or for the version is no mistake. -/
def exitCode : UsageError → Nat
  | displayHelp | displayVersion => 0
  | _ => 2

end UsageError

end NotifyScope
