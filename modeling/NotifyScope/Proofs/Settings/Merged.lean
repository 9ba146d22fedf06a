import NotifyScope.Proofs.Host.Keeps
import NotifyScope.Proofs.Options.Given
import NotifyScope.Settings.Effective

/-
  Settings that were merged.  The settings of a run come from
  its options and from one file at most, and whatever can go
  wrong has gone well if there are any.

  Key definitions include:
    * `Settings.contents`
    * `Settings.unit?`
    * `Settings.loadFile`

  Main declarations:
    * `RuleSpec.checkAll_eq_ok`
    * `Settings.merge_eq_ok_iff`
    * `Settings.load_eq`
-/

namespace NotifyScope

------------------------------------------------------------
-- Rules
------------------------------------------------------------

namespace RuleSpec

/- Rules that are accepted come from the specifications. -/
theorem checkAll_eq_ok
    {specs : List RuleSpec}
    {rules : List Rule}
    (hRules : checkAll specs = .ok rules) :
    specs.map check = rules.map Except.ok := by
  induction specs generalizing rules with
  | nil =>
      cases hRules
      rfl
  | cons spec rest ih =>
      unfold checkAll at hRules
      split at hRules
      · cases hRules
      · rename_i rule hRule
        split at hRules
        · cases hRules
        · rename_i others hOthers
          cases hRules
          rw [List.map_cons, List.map_cons, hRule,
            ih hOthers]

/- There is always a rule that is asked for. -/
theorem chosen_ne_nil
    (options : Options)
    (file : FileSettings) :
    chosen options file ≠ [] := by
  unfold chosen
  rw [ne_eq, List.map_eq_nil_iff]
  split
  · exact List.cons_ne_nil _ _
  · split
    · exact List.cons_ne_nil _ _
    · rename_i hRules
      exact fun hNil => hRules (List.isEmpty_iff.mpr hNil)

end RuleSpec

namespace Settings

------------------------------------------------------------
-- Parts
------------------------------------------------------------

/- What the settings file sets, which is nothing without it. -/
def contents
    (file : Option LoadedSettings) : FileSettings :=
  (file.map LoadedSettings.settings).getD {}

/- Spaces for a level, with or without a file. -/
def unit?
    (options : Options) :
    Option LoadedSettings → Except Failure Nat
  | none => .ok options.indentUnit
  | some file => fileUnit options file

/-
  Settings are merged from a level and from rules that have
  been accepted.
-/
theorem merge_eq_ok_iff
    {options : Options}
    {file : Option LoadedSettings}
    {settings : Settings} :
    merge options file = .ok settings ↔
      ∃ unit rules,
        unit? options file = .ok unit ∧
          RuleSpec.checkAll
              (RuleSpec.chosen options (contents file)) =
            .ok rules ∧
          settings =
            ofParts options (contents file)
              (file.bind anchored) unit rules := by
  have hMerge :
      merge options file =
        unit? options file >>= fun unit =>
          RuleSpec.checkAll
              (RuleSpec.chosen options (contents file)) >>=
            fun rules =>
              pure
                (ofParts options (contents file)
                  (file.bind anchored) unit rules) := by
    cases file <;> rfl
  rw [hMerge]
  constructor
  · intro hOk
    obtain ⟨unit, hUnit, hOk⟩ := exists_of_bind_eq_ok hOk
    obtain ⟨rules, hRules, hOk⟩ := exists_of_bind_eq_ok hOk
    cases hOk
    exact ⟨unit, rules, hUnit, hRules, rfl⟩
  · rintro ⟨unit, rules, hUnit, hRules, rfl⟩
    rw [hUnit, hRules]
    rfl

/- Only the options decide what a run does in the end. -/
theorem modes_of_merge
    {options : Options}
    {file : Option LoadedSettings}
    {settings : Settings}
    (hMerge : merge options file = .ok settings) :
    settings.dryRun = options.dryRun ∧
      settings.diff = options.diff ∧
        settings.watch = options.watch := by
  obtain ⟨unit, rules, -, -, rfl⟩ :=
    merge_eq_ok_iff.mp hMerge
  exact ⟨rfl, rfl, rfl⟩

/- No settings are without a rule. -/
theorem rules_ne_nil_of_merge
    {options : Options}
    {file : Option LoadedSettings}
    {settings : Settings}
    (hMerge : merge options file = .ok settings) :
    settings.rules ≠ [] := by
  obtain ⟨unit, rules, -, hRules, rfl⟩ :=
    merge_eq_ok_iff.mp hMerge
  intro hNil
  have hChecks := RuleSpec.checkAll_eq_ok hRules
  rw [show rules = [] from hNil, List.map_nil,
    List.map_eq_nil_iff] at hChecks
  exact RuleSpec.chosen_ne_nil options _ hChecks

------------------------------------------------------------
-- Files
------------------------------------------------------------

variable {σ : Type}
variable [Host (StateM σ)]

/- The settings file of a run, if there is one. -/
def loadFile
    {m : Type → Type}
    [Monad m]
    [Host m]
    (options : Options) : Task m (Option LoadedSettings) := do
  match ← path? options with
  | none => pure none
  | some path =>
      let settings ← FileSettings.load path
      pure (some { path, settings })

/- The settings of a run are its options and its file. -/
theorem load_eq
    (options : Options) :
    (load options : Task (StateM σ) Settings) =
      loadFile options >>= fun file =>
        ExceptT.mk (pure (merge options file)) := by
  unfold load loadFile
  rw [bind_assoc]
  refine bind_congr fun path => ?_
  cases path with
  | none =>
      dsimp only
      rw [pure_bind]
  | some path =>
      dsimp only
      rw [bind_assoc]
      refine bind_congr fun settings => ?_
      rw [pure_bind]

/- Settings that were loaded were merged. -/
theorem yields_load
    (options : Options) :
    Task.Yields
      (fun settings => ∃ file, merge options file = .ok settings)
      (load options : Task (StateM σ) Settings) := by
  rw [load_eq]
  refine (Task.yields_something _).bind fun file _ => ?_
  exact fun state settings hMerge => ⟨file, hMerge⟩

end Settings

end NotifyScope
