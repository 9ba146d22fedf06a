import Mathlib.Tactic.SplitIfs
import NotifyScope.Options.Parse

/-
  What a command line gives.  The options of a run have a
  value for everything, so that one cannot tell from them
  whether an option was given.  The options that were found
  on the command line tell that, and all others follow from
  them.

  Key definitions include:
    * `Options.given`

  Main declarations:
    * `Options.exists_given_of_parse`
    * `Options.watch_of_parse`
-/

namespace NotifyScope

/- A result of two steps is one of the second step. -/
theorem exists_of_bind_eq_ok
    {ε α β : Type}
    {first : Except ε α}
    {next : α → Except ε β}
    {b : β}
    (hBind : first >>= next = .ok b) :
    ∃ a, first = .ok a ∧ next a = .ok b := by
  cases first with
  | error error => cases hBind
  | ok a => exact ⟨a, rfl, hBind⟩

/- A result that has something to it is no error. -/
theorem exists_of_toOption_map
    {ε α β : Type}
    {result : Except ε α}
    {f : α → β}
    {b : β}
    (hSome : result.toOption.map f = some b) :
    ∃ a, result = .ok a ∧ f a = b := by
  cases result with
  | error error => cases hSome
  | ok a => exact ⟨a, rfl, Option.some.inj hSome⟩

/- Options that go together do not exclude each other. -/
theorem OptionKey.conflicts_eq_false
    {present : List OptionKey}
    {a b : OptionKey}
    (hConflict : haveConflict present = false)
    (hLeft : a ∈ present)
    (hRight : b ∈ present) :
    conflicts a b = false := by
  simp only [haveConflict, List.any_eq_false,
    Bool.not_eq_true] at hConflict
  exact hConflict a hLeft b hRight

theorem Matches.mem_of_has
    {found : Matches}
    {key : OptionKey}
    (hHas : found.has key = true) :
    key ∈ found.map Prod.fst := by
  obtain ⟨⟨other, values⟩, hMem, hKey⟩ :=
    List.lookup_isSome_iff.mp hHas
  rw [eq_of_beq hKey]
  exact List.mem_map_of_mem hMem

------------------------------------------------------------
-- Options That Were Found
------------------------------------------------------------

namespace Options

/- The options on a command line, with their values. -/
def given
    (words : List Text) : Except UsageError Matches := do
  let (state, _) ← CommandName.main.read {} words
  let state ← state.resolve
  return state.found

variable {words : List Text}
variable {options : Options}

/-
  A command line is accepted only if its options go together,
  and then they say everything but the command that follows.
-/
theorem exists_given_of_parse
    (hWords : parse words = .ok options) :
    ∃ found,
      given words = .ok found ∧
        OptionKey.haveConflict (found.map Prod.fst) =
            false ∧
          options = found.options options.command := by
  unfold parse at hWords
  obtain ⟨⟨start, next⟩, hRead, hWords⟩ :=
    exists_of_bind_eq_ok hWords
  dsimp -zeta only at hWords
  extract_lets behind at hWords
  have hBehind : ∃ command, behind command = .ok options := by
    split at hWords
    · obtain ⟨command, -, hWords⟩ :=
        exists_of_bind_eq_ok hWords
      exact ⟨command, hWords⟩
    · exact ⟨none, hWords⟩
  obtain ⟨command, hWords⟩ := hBehind
  obtain ⟨state, hResolve, hWords⟩ :=
    exists_of_bind_eq_ok hWords
  have hGiven : given words = .ok state.found := by
    unfold given
    rw [hRead]
    exact congrArg (Except.map ParseState.found) hResolve
  refine ⟨state.found, hGiven, ?_⟩
  dsimp only at hWords
  split_ifs at hWords with hConflict hNeeded
  cases hWords
  exact ⟨by simpa using hConflict, rfl⟩

/- A run that watches files is no preview. -/
theorem watch_of_parse
    (hWords : parse words = .ok options)
    (hPreview :
      options.dryRun = true ∨ options.diff = true) :
    options.watch = false := by
  obtain ⟨found, -, hConflict, hOptions⟩ :=
    exists_given_of_parse hWords
  rw [hOptions] at hPreview ⊢
  refine Bool.eq_false_iff.mpr fun hWatch => ?_
  have hAlone : ∀ key, found.has key = true →
      OptionKey.conflicts .watch key = false := fun key hKey =>
    OptionKey.conflicts_eq_false hConflict
      (Matches.mem_of_has hWatch) (Matches.mem_of_has hKey)
  rcases hPreview with hDryRun | hDiff
  · exact absurd (hAlone .dryRun hDryRun) (by decide)
  · exact absurd (hAlone .diff hDiff) (by decide)

end Options

end NotifyScope
