import NotifyScope.Options.Grammar

/-
  This file reads a command line.  The values of an option
  are kept back until something else follows, and are looked
  at only then.

  Key definitions include:
    * `Matches`
    * `ParseState`
    * `ParseState.resolve`
    * `CommandName.read`
    * `Options.parse`
-/

namespace NotifyScope

------------------------------------------------------------
-- Values
------------------------------------------------------------

/- The options that were found, with their values. -/
abbrev Matches := List (OptionKey × List Text)

/- A number of at most 64 bits, with or without a plus. -/
def Text.toNumber?
    (text : Text) : Option Nat :=
  let digits :=
    if text.head? = some '+' then text.tail else text
  if digits.isEmpty || !digits.all Char.isDigit then
    none
  else
    let value := digits.foldl
      (fun value c => 10 * value + (c.toNat - 48)) 0
    if value < Nat.pow 2 64 then some value else none

namespace ValueKind

/- Refuse a text that is no value. -/
def check
    (text : Text) : ValueKind → Except UsageError Unit
  | none | .text => .ok ()
  | path =>
      if text.isEmpty then .error .invalidValue else .ok ()
  | number =>
      if text.toNumber?.isSome then
        .ok ()
      else
        .error .valueValidation
  | color =>
      if (ColorMode.ofWord? text).isSome then
        .ok ()
      else
        .error .invalidValue

end ValueKind

------------------------------------------------------------
-- States
------------------------------------------------------------

/- What the last argument was. -/
inductive Expectation where
  /- Something complete. -/
  | anything
  /- An option without its value. -/
  | value
  /- An input. -/
  | inputs
deriving DecidableEq, Repr

/- How far a command line was read. -/
structure ParseState where
  found : Matches := []
  /- An option or the inputs, with the values so far. -/
  pending : Option (OptionForm × List Text) := none
  expectation : Expectation := .anything
  /- Whether all that follows are inputs. -/
  onlyInputs : Bool := false
deriving DecidableEq, Repr

/- The inputs, as if they were an option. -/
def OptionForm.inputs : OptionForm :=
  { key := .inputs, long := "", value := .path }

namespace ParseState

/- Check values one after the other. -/
def checkValues
    (kind : ValueKind) :
    List Text → Except UsageError Unit
  | [] => .ok ()
  | value :: rest =>
      match kind.check value with
      | .error error => .error error
      | .ok () => checkValues kind rest

/-
  Note an option with its values.  Only the inputs may be
  given more than once.
-/
def note
    (state : ParseState)
    (form : OptionForm)
    (values : List Text) : Except UsageError ParseState :=
  match form.key with
  | .help => .error .displayHelp
  | .version => .error .displayVersion
  | key =>
      if form.value ≠ .none ∧ values = [] then
        .error .invalidValue
      else if key ≠ .inputs ∧
          (state.found.lookup key).isSome then
        .error .argumentConflict
      else
        match checkValues form.value values with
        | .error error => .error error
        | .ok () =>
            .ok
              { state with
                found := state.found ++ [(key, values)] }

/- Note what was kept back. -/
def resolve
    (state : ParseState) : Except UsageError ParseState :=
  match state.pending with
  | none => .ok state
  | some (form, values) =>
      { state with pending := none }.note form values

/- Note an option that is complete. -/
def complete
    (state : ParseState)
    (form : OptionForm)
    (values : List Text) : Except UsageError ParseState :=
  match state.resolve with
  | .error error => .error error
  | .ok state =>
      match state.note form values with
      | .error error => .error error
      | .ok state => .ok { state with expectation := .anything }

/- Wait for the value of an option. -/
def await
    (state : ParseState)
    (form : OptionForm) : Except UsageError ParseState :=
  match state.resolve with
  | .error error => .error error
  | .ok state =>
      .ok
        { state with
          pending := some (form, [])
          expectation := .value }

/- Add a value to the option that waits for it. -/
def addValue
    (state : ParseState)
    (value : Text) : ParseState :=
  match state.pending with
  | none => state
  | some (form, values) =>
      { state with
        pending := some (form, values ++ [value])
        expectation := .anything }

/- Add an input. -/
def addInput
    (state : ParseState)
    (input : Text) : Except UsageError ParseState :=
  match state.pending with
  | some ({ key := .inputs, .. }, values) =>
      .ok
        { state with
          pending := some (.inputs, values ++ [input])
          expectation := .inputs }
  | _ =>
      match state.resolve with
      | .error error => .error error
      | .ok state =>
          .ok
            { state with
              pending := some (.inputs, [input])
              expectation := .inputs }

end ParseState

------------------------------------------------------------
-- Arguments
------------------------------------------------------------

/- The form of an argument. -/
inductive Argument where
  /- Two minuses. -/
  | separator
  /- A long name, with a value behind an equals sign. -/
  | long (name : Text) (value : Option Text)
  /- Letters. -/
  | short (letters : Text)
  | plain
deriving DecidableEq, Repr

/- The form of an argument.  A single minus has none. -/
def Argument.ofText : Text → Argument
  | ['-', '-'] => separator
  | '-' :: '-' :: rest =>
      let name := rest.takeWhile fun c => c != '='
      match rest.drop name.length with
      | [] => long name none
      | _ :: value => long name (some value)
  | '-' :: c :: rest => short (c :: rest)
  | _ => plain

namespace CommandName

/- Read a long option. -/
def readLong
    (command : CommandName)
    (state : ParseState)
    (name : Text)
    (value : Option Text) : Except UsageError ParseState :=
  match command.long? name with
  | none => .error .unknownArgument
  | some form =>
      match form.value, value with
      | .none, none => state.complete form []
      | .none, some _ => .error .tooManyValues
      | _, none => state.await form
      | _, some value => state.complete form [value]

/-
  Read options by their letters.  What follows the letter of
  one with a value is the value, an equals sign aside.
-/
def readShort
    (command : CommandName) :
    ParseState → Text → Except UsageError ParseState
  | state, [] => .ok state
  | state, letter :: rest =>
      match command.short? letter with
      | none => .error .unknownArgument
      | some form =>
          match form.value, rest with
          | .none, _ =>
              match state.complete form [] with
              | .error error => .error error
              | .ok state => readShort command state rest
          | _, [] => state.await form
          | _, '=' :: value => state.complete form [value]
          | _, value => state.complete form [value]

/- The error for a word that is no input of a command. -/
def unexpected
    (command : CommandName)
    (state : ParseState)
    (word : Text) : UsageError :=
  if command.children.isEmpty then
    .unknownArgument
  else if state.onlyInputs &&
      (command.child? word).isSome then
    .unknownArgument
  else
    .invalidSubcommand

/- What is shown when help on a command is asked for. -/
def helpOn :
    CommandName → List Text → UsageError
  | _, [] => .displayHelp
  | command, word :: rest =>
      match command.child? word with
      | none => .invalidSubcommand
      | some child => helpOn child rest

/- Read an argument that is no option. -/
def readPlain
    (command : CommandName)
    (state : ParseState)
    (word : Text) : Except UsageError ParseState :=
  if state.expectation = .value ∧
      state.onlyInputs = false then
    .ok (state.addValue word)
  else if command.takesInputs then
    state.addInput word
  else
    .error (command.unexpected state word)

/- Read an argument that is no command. -/
def readArgument
    (command : CommandName)
    (state : ParseState)
    (word : Text) : Except UsageError ParseState :=
  if state.onlyInputs then
    command.readPlain state word
  else
    match Argument.ofText word with
    | .separator => .ok { state with onlyInputs := true }
    | .long name value => command.readLong state name value
    | .short letters => command.readShort state letters
    | .plain => command.readPlain state word

/- A state, and the command that follows with its words. -/
abbrev Reading :=
  ParseState × Option (CommandName × List Text)

/- Read up to the end or to a command that follows. -/
def read
    (command : CommandName) :
    ParseState → List Text → Except UsageError Reading
  | state, [] => .ok (state, none)
  | state, word :: rest =>
      let child :=
        if state.onlyInputs = false ∧
            state.expectation = .anything then
          command.child? word
        else
          none
      match child with
      | some .help => .error (helpOn command rest)
      | some child => .ok (state, some (child, rest))
      | none =>
          match command.readArgument state word with
          | .error error => .error error
          | .ok state => read command state rest

/- Read a command that no other one follows. -/
def readLeaf
    (command : CommandName)
    (words : List Text) : Except UsageError Matches := do
  let (state, _) ← command.read {} words
  let state ← state.resolve
  return state.found

end CommandName

------------------------------------------------------------
-- Command Lines
------------------------------------------------------------

namespace ConfigCommand

/- Read a command about the settings file. -/
def parse
    (words : List Text) :
    Except UsageError ConfigCommand := do
  let (_, next) ← CommandName.config.read {} words
  match next with
  | some (.init, words) =>
      let found ← CommandName.init.readLeaf words
      return .init (found.lookup .isGlobal).isSome
  | some (.display, words) =>
      let _ ← CommandName.display.readLeaf words
      return .display
  | some (.path, words) =>
      let _ ← CommandName.path.readLeaf words
      return .path
  | _ => throw .displayHelpOnMissing

end ConfigCommand

namespace Matches

/- Whether an option was found. -/
def has
    (found : Matches)
    (key : OptionKey) : Bool :=
  (found.lookup key).isSome

/- The value of an option. -/
def value?
    (found : Matches)
    (key : OptionKey) : Option Text :=
  (found.lookup key).bind List.head?

/- The number that is the value of an option. -/
def number
    (found : Matches)
    (key : OptionKey)
    (default : Nat) : Nat :=
  ((value? found key).bind Text.toNumber?).getD default

/- All inputs. -/
def inputs
    (found : Matches) : List Text :=
  found.flatMap fun (key, values) =>
    if key = .inputs then values else []

/- The options that were found. -/
def options
    (found : Matches)
    (command : Option ConfigCommand) : Options :=
  let standard : Options := {}
  { inputs := inputs found
    baseDirectory := value? found .baseDirectory
    filesFrom := value? found .filesFrom
    settingsFile := value? found .settingsFile
    noSettings := has found .noSettings
    recursive := has found .recursive
    glob := (value? found .glob).getD standard.glob
    noGitignore := has found .noGitignore
    maxDepth := number found .maxDepth standard.maxDepth
    oldName := value? found .oldName
    newName := value? found .newName
    declaration := value? found .declaration
    marker := value? found .marker
    noMarker := has found .noMarker
    wrapOpen := value? found .wrapOpen
    wrapClose := value? found .wrapClose
    legacyClose := value? found .legacyClose
    indentUnit :=
      number found .indentUnit standard.indentUnit
    noReindent := has found .noReindent
    verbose := has found .verbose
    color :=
      ((value? found .color).bind ColorMode.ofWord?).getD
        standard.color
    diff := has found .diff
    dryRun := has found .dryRun
    watch := has found .watch
    debounce := number found .debounce standard.debounce
    backup := has found .backup
    backupExtension :=
      (value? found .backupExtension).getD
        standard.backupExtension
    json := has found .json
    command }

end Matches

namespace Options

/-
  Read a command line.  What is wrong with a command that
  follows comes before what is wrong with the options.
-/
def parse
    (words : List Text) : Except UsageError Options := do
  let (state, next) ← CommandName.main.read {} words
  let command ←
    match next with
    | some (.config, words) =>
        (ConfigCommand.parse words).map some
    | _ => pure none
  let state ← state.resolve
  let present := state.found.map Prod.fst
  if OptionKey.haveConflict present then
    throw .argumentConflict
  else if OptionKey.lackNeeded present then
    throw .missingRequiredArgument
  else
    return Matches.options state.found command

end Options

end NotifyScope
