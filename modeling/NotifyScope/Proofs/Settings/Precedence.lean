import Mathlib.Data.List.Basic
import NotifyScope.Host.Memory
import NotifyScope.Proofs.Options.Readable
import NotifyScope.Proofs.Settings.Merged

/-
  What the command line and the settings file have to say.
  A setting should be the one of the command line if it is
  given there, else the one of the file, else the standard
  one.  Once the options are read, an option that is given
  with its standard value looks like one that is not given.
  This is the only case in which the file is preferred.

  Key definitions include:
    * `Settings.preferred`
    * `Settings.Follows`
    * `Settings.Outvoted`
    * `Settings.SomeOutvoted`

  Main declarations:
    * `Settings.choose_eq_preferred_iff`
    * `Settings.follows_iff_of_merge`
    * `Settings.follows_iff_of_load`
-/

namespace NotifyScope

------------------------------------------------------------
-- Rules
------------------------------------------------------------

namespace RuleSpec

/- The specification with each flag about rules applied. -/
def shaped
    (found : Matches)
    (spec : RuleSpec) : RuleSpec :=
  { spec with
    declaration :=
      (found.value? .declaration).or spec.declaration
    marker :=
      (if found.has .noMarker then
        some []
      else
        found.value? .marker).or spec.marker
    wrapOpen := (found.value? .wrapOpen).or spec.wrapOpen
    wrapClose := (found.value? .wrapClose).or spec.wrapClose
    legacyClose :=
      (found.value? .legacyClose).or spec.legacyClose }

/-
  The rule of the command line, else those of the file, else
  the one that is built in.
-/
def preferred
    (found : Matches)
    (file : FileSettings) : List RuleSpec :=
  match found.value? .oldName, found.value? .newName with
  | some oldName, some newName => [{ oldName, newName }]
  | _, _ =>
      match file.rules with
      | [] => [builtIn]
      | rules => rules

theorem override_options
    (found : Matches)
    (command : Option ConfigCommand)
    (spec : RuleSpec) :
    override (found.options command) spec =
      spec.shaped found := by
  unfold override shaped
  congr 1
  change (if found.has .noMarker then _ else _) = _
  split <;> rfl

theorem chosen_options
    (found : Matches)
    (command : Option ConfigCommand)
    (file : FileSettings) :
    chosen (found.options command) file =
      (preferred found file).map (shaped found) := by
  have hShape :
      override (found.options command) = shaped found :=
    funext (override_options found command)
  unfold chosen preferred
  rw [hShape]
  cases hRules : file.rules <;> rfl

end RuleSpec

------------------------------------------------------------
-- Precedence
------------------------------------------------------------

namespace Settings

section Values

variable {α : Type}

/- The value given, else that of the file, else the standard. -/
def preferred
    (given inFile : Option α)
    (standard : α) : α :=
  given.getD (inFile.getD standard)

/-
  Whether the standard value is given, but the file sets
  another one.
-/
def Outvoted
    (given inFile : Option α)
    (standard : α) : Prop :=
  given = some standard ∧ ∃ value ∈ inFile, value ≠ standard

variable [DecidableEq α]

instance
    (given inFile : Option α)
    (standard : α) :
    Decidable (Outvoted given inFile standard) :=
  inferInstanceAs (Decidable (_ ∧ _))

/- The file is preferred in no other case. -/
theorem choose_eq_preferred_iff
    (given inFile : Option α)
    (standard : α) :
    choose (given.getD standard) standard inFile =
        preferred given inFile standard ↔
      ¬Outvoted given inFile standard := by
  unfold choose preferred Outvoted
  cases given with
  | none => simp
  | some value =>
      cases inFile with
      | none => simp
      | some other =>
          by_cases hStandard : value = standard
          · simp [hStandard]
          · simp [hStandard]

end Values

/- A flag can only be given with another value. -/
theorem choose_flag
    (found : Matches)
    (key : OptionKey)
    (inFile : Option Bool) :
    choose (found.has key) false inFile =
      preferred (found.flag? key true) inFile false := by
  unfold choose preferred Matches.flag?
  cases found.has key <;> rfl

theorem choose_not_flag
    (found : Matches)
    (key : OptionKey)
    (inFile : Option Bool) :
    choose (!found.has key) true inFile =
      preferred (found.flag? key false) inFile true := by
  unfold choose preferred Matches.flag?
  cases found.has key <;> rfl

/-
  Settings that prefer the command line to the file, and the
  file to the standard values.
-/
structure Follows
    (found : Matches)
    (file : Option LoadedSettings)
    (settings : Settings) : Prop where
  rules :
    ((RuleSpec.preferred found (contents file)).map
        (RuleSpec.shaped found)).map RuleSpec.check =
      settings.rules.map Except.ok
  unit :
    settings.layout.unit =
      List.replicate
        (preferred (found.number? .indentUnit)
          (contents file).indentUnit 2) ' '
  reindent :
    settings.layout.reindent =
      preferred (found.flag? .noReindent false)
        (contents file).reindent true
  baseDirectory :
    settings.baseDirectory =
      (found.value? .baseDirectory).or (file.bind anchored)
  recursive :
    settings.recursive =
      preferred (found.flag? .recursive true)
        (contents file).recursive false
  glob :
    settings.glob =
      preferred (found.value? .glob) (contents file).glob
        "*.dart".toList
  useIgnoreFiles :
    settings.useIgnoreFiles =
      preferred (found.flag? .noGitignore false)
        (contents file).useIgnoreFiles true
  maxDepth :
    settings.maxDepth =
      preferred (found.number? .maxDepth)
        (contents file).maxDepth 0
  color :
    settings.color =
      preferred found.mode? (contents file).color .auto
  verbose :
    settings.verbose =
      preferred (found.flag? .verbose true)
        (contents file).verbose false
  diff : settings.diff = found.has .diff
  dryRun : settings.dryRun = found.has .dryRun
  watch : settings.watch = found.has .watch
  debounce :
    settings.debounce = (found.number? .debounce).getD 500
  backup :
    settings.backup =
      preferred (found.flag? .backup true)
        (contents file).backup false
  backupExtension :
    settings.backupExtension =
      preferred (found.value? .backupExtension)
        (contents file).backupExtension ".bak".toList
  json :
    settings.json =
      preferred (found.flag? .json true)
        (contents file).json false

/- Whether this happens to one of the settings. -/
def SomeOutvoted
    (found : Matches)
    (file : FileSettings) : Prop :=
  Outvoted (found.number? .indentUnit) file.indentUnit 2 ∨
    Outvoted (found.value? .glob) file.glob
      "*.dart".toList ∨
    Outvoted (found.number? .maxDepth) file.maxDepth 0 ∨
    Outvoted found.mode? file.color .auto ∨
    Outvoted (found.value? .backupExtension)
      file.backupExtension ".bak".toList

instance
    (found : Matches)
    (file : FileSettings) :
    Decidable (SomeOutvoted found file) :=
  inferInstanceAs (Decidable (_ ∨ _))

/- A level that is accepted is chosen like other settings. -/
theorem unit?_eq_ok
    {options : Options}
    {file : Option LoadedSettings}
    {unit : Nat}
    (hUnit : unit? options file = .ok unit) :
    unit =
      choose options.indentUnit 2
        (contents file).indentUnit := by
  unfold choose
  cases file with
  | none =>
      cases hUnit
      split <;> rfl
  | some file =>
      unfold unit? fileUnit at hUnit
      dsimp only at hUnit
      change unit =
        if options.indentUnit = 2 then
          file.settings.indentUnit.getD options.indentUnit
        else
          options.indentUnit
      cases hFile : file.settings.indentUnit with
      | none =>
          rw [hFile] at hUnit
          cases hUnit
          split <;> rfl
      | some width =>
          rw [hFile] at hUnit
          dsimp only at hUnit
          split at hUnit
          · rename_i hGiven
            cases hUnit
            exact (if_neg hGiven).symm
          · rename_i hStandard
            split at hUnit
            · cases hUnit
            · cases hUnit
              exact (if_pos (Decidable.not_not.mp hStandard)).symm

/-
  Merged settings prefer the command line to the file, unless
  an option is given with its standard value.
-/
theorem follows_iff_of_merge
    {found : Matches}
    {command : Option ConfigCommand}
    {file : Option LoadedSettings}
    {settings : Settings}
    (hMerge :
      merge (found.options command) file = .ok settings) :
    Follows found file settings ↔
      ¬SomeOutvoted found (contents file) := by
  obtain ⟨unit, rules, hUnit, hRules, rfl⟩ :=
    merge_eq_ok_iff.mp hMerge
  rw [unit?_eq_ok hUnit]
  rw [RuleSpec.chosen_options] at hRules
  unfold SomeOutvoted
  simp only [not_or, ← choose_eq_preferred_iff]
  constructor
  · intro hFollows
    exact ⟨(List.replicate_left_injective ' ')
        hFollows.unit, hFollows.glob, hFollows.maxDepth,
      hFollows.color, hFollows.backupExtension⟩
  · rintro ⟨hUnit, hGlob, hMaxDepth, hColor, hExtension⟩
    exact
      { rules := RuleSpec.checkAll_eq_ok hRules
        unit := congrArg (List.replicate · ' ') hUnit
        reindent := choose_not_flag found .noReindent _
        baseDirectory := rfl
        recursive := choose_flag found .recursive _
        glob := hGlob
        useIgnoreFiles := choose_not_flag found .noGitignore _
        maxDepth := hMaxDepth
        color := hColor
        verbose := choose_flag found .verbose _
        diff := rfl
        dryRun := rfl
        watch := rfl
        debounce := rfl
        backup := choose_flag found .backup _
        backupExtension := hExtension
        json := choose_flag found .json _ }

------------------------------------------------------------
-- Loading
------------------------------------------------------------

section Loading

variable {σ : Type}
variable [Host (StateM σ)]
variable {words : List Text}
variable {options : Options}
variable {settings : Settings}

/- Settings that are loaded are merged from a file. -/
theorem exists_file_of_load
    {state : σ}
    (hLoad :
      ((load options : Task (StateM σ) Settings).run.run
        state).1 = .ok settings) :
    ∃ file,
      ((loadFile options :
          Task (StateM σ) (Option LoadedSettings)).run.run
        state).1 = .ok file ∧
        merge options file = .ok settings := by
  rw [load_eq, Task.run_bind] at hLoad
  generalize
    (loadFile options :
      Task (StateM σ) (Option LoadedSettings)).run.run
        state = loaded at hLoad ⊢
  rcases loaded with ⟨result, after⟩
  cases result with
  | error failure => cases hLoad
  | ok file => exact ⟨file, rfl, hLoad⟩

/-
  On every system, the settings of a run prefer the command
  line, all of whose options can be read, to the settings
  file, and the file to the standard values, if and only if no
  option is given with its standard value while the file sets
  another one.
-/
theorem follows_iff_of_load
    (state : σ)
    (hWords : Options.parse words = .ok options)
    (hLoad :
      ((load options : Task (StateM σ) Settings).run.run
        state).1 = .ok settings) :
    ∃ found file,
      Options.given words = .ok found ∧
        found.Readable ∧
          ((loadFile options :
              Task (StateM σ) (Option LoadedSettings)).run.run
            state).1 = .ok file ∧
            (Follows found file settings ↔
              ¬SomeOutvoted found (contents file)) := by
  obtain ⟨found, hGiven, -, hOptions⟩ :=
    Options.exists_given_of_parse hWords
  obtain ⟨file, hFile, hMerge⟩ := exists_file_of_load hLoad
  rw [hOptions] at hMerge
  exact ⟨found, file, hGiven,
    (Options.sound_of_given hGiven).readable, hFile,
    follows_iff_of_merge hMerge⟩

end Loading

/- A world whose only file is a settings file. -/
def worldWith
    (text : String) : World :=
  { disk :=
      { nodes :=
          [([".scopewraprc".toList],
            .file (.bytes (Utf8.encode text.toList)))] } }

/- The file says something that the command line does not. -/
theorem follows_iff_of_load_other_colour :
    let words := ["--color".toList, "never".toList]
    let world :=
      worldWith "color = \"always\"\nindent_unit = 4\n"
    ∃ options settings found file,
      Options.parse words = .ok options ∧
        ((load options : Task InMemory Settings).run.run
          world).1 = .ok settings ∧
          Options.given words = .ok found ∧
            ((loadFile options :
                Task InMemory (Option LoadedSettings)).run.run
              world).1 = .ok file ∧
              (contents file).indentUnit = some 4 ∧
                Follows found file settings := by
  intro words world
  have hWords :
      Options.parse words = .ok { color := .never } := by
    decide +kernel
  have hGiven :
      Options.given words =
        .ok [(.color, ["never".toList])] := by
    decide +kernel
  have hFile :
      ((loadFile { color := .never } :
          Task InMemory (Option LoadedSettings)).run.run
        world).1 =
          .ok
            (some
              { path := "/.scopewraprc".toList
                settings :=
                  { color := some .always
                    indentUnit := some 4 } }) := by
    decide +kernel
  have hColor :
      ((load { color := .never } :
          Task InMemory Settings).run.run
        world).1.toOption.map Settings.color =
          some .never := by
    decide +kernel
  obtain ⟨settings, hLoad, -⟩ :=
    exists_of_toOption_map hColor
  obtain ⟨found, file, hFound, -, hThere, hFollows⟩ :=
    follows_iff_of_load world hWords hLoad
  cases hGiven.symm.trans hFound
  cases hFile.symm.trans hThere
  exact ⟨_, _, _, _, hWords, hLoad, hGiven, hFile, rfl,
    hFollows.mpr (by decide)⟩

/- A level that is given as two spaces has four. -/
theorem not_follows_given_two_spaces :
    let words := ["--indent-unit".toList, "2".toList]
    let world := worldWith "indent_unit = 4\n"
    ∃ options settings found file,
      Options.parse words = .ok options ∧
        ((load options : Task InMemory Settings).run.run
          world).1 = .ok settings ∧
          Options.given words = .ok found ∧
            ((loadFile options :
                Task InMemory (Option LoadedSettings)).run.run
              world).1 = .ok file ∧
              found.number? .indentUnit = some 2 ∧
                settings.layout.unit = List.replicate 4 ' ' ∧
                  ¬Follows found file settings := by
  intro words world
  have hWords : Options.parse words = .ok {} := by
    decide +kernel
  have hGiven :
      Options.given words =
        .ok [(.indentUnit, ["2".toList])] := by
    decide +kernel
  have hUnit :
      ((load {} : Task InMemory Settings).run.run
        world).1.toOption.map (·.layout.unit) =
          some (List.replicate 4 ' ') := by
    decide +kernel
  obtain ⟨settings, hLoad, hFour⟩ :=
    exists_of_toOption_map hUnit
  obtain ⟨file, hFile, -⟩ := exists_file_of_load hLoad
  refine ⟨_, _, _, file, hWords, hLoad, hGiven, hFile,
    by decide, hFour, fun hFollows => ?_⟩
  have hTwo : List.replicate 4 ' ' = List.replicate 2 ' ' :=
    hFour.symm.trans hFollows.unit
  exact absurd hTwo (by decide)

end Settings

end NotifyScope
