import NotifyScope.Proofs.Options.Given

/-
  Options that can be read.  A command line is accepted only
  if each option on it has a value of the kind that it takes.
  So what was found for an option is never left out.

  Key definitions include:
    * `Matches.Sound`
    * `ParseState.Sound`
    * `Matches.Readable`

  Main declarations:
    * `ParseState.Sound.note`
    * `CommandName.sound_read`
    * `Options.sound_of_given`
    * `Matches.Sound.readable`
-/

namespace NotifyScope

/- The forms of all that can be found on a command line. -/
def OptionForm.all : List OptionForm :=
  inputs :: main

/-
  Each option that was found has a form and, if the form takes
  one, a value.  All values are of the kind that it takes.
-/
def Matches.Sound
    (found : Matches) : Prop :=
  ∀ key values, (key, values) ∈ found →
    ∃ form ∈ OptionForm.all,
      form.key = key ∧
        (form.value ≠ .none → values ≠ []) ∧
          ∀ value ∈ values, form.value.check value = .ok ()

namespace ParseState

/- What is kept back has a form as well. -/
structure Sound
    (state : ParseState) : Prop where
  found : state.found.Sound
  pending :
    ∀ form values,
      state.pending = some (form, values) →
        form ∈ OptionForm.all

variable {state next : ParseState}
variable {form : OptionForm}
variable {values : List Text}

theorem check_of_checkValues
    {kind : ValueKind}
    (hValues : checkValues kind values = .ok ()) :
    ∀ value ∈ values, kind.check value = .ok () := by
  induction values with
  | nil => exact fun _ hMem => absurd hMem List.not_mem_nil
  | cons value rest ih =>
      unfold checkValues at hValues
      split at hValues
      · cases hValues
      · rename_i hValue
        intro other hMem
        rcases List.mem_cons.mp hMem with rfl | hMem
        · exact hValue
        · exact ih hValues other hMem

/- An option is noted only with values that it takes. -/
theorem Sound.note
    (hSound : state.Sound)
    (hForm : form ∈ OptionForm.all)
    (hNote : state.note form values = .ok next) :
    next.Sound := by
  unfold ParseState.note at hNote
  split at hNote
  · cases hNote
  · cases hNote
  · split at hNote
    · cases hNote
    · rename_i hSome
      split at hNote
      · cases hNote
      · split at hNote
        · cases hNote
        · rename_i hValues
          cases hNote
          refine ⟨fun key others hMem => ?_, hSound.pending⟩
          rcases List.mem_append.mp hMem with hMem | hMem
          · exact hSound.found key others hMem
          · cases List.mem_singleton.mp hMem
            exact ⟨form, hForm, rfl,
              fun hValue hNil => hSome ⟨hValue, hNil⟩,
              check_of_checkValues hValues⟩

theorem Sound.resolve
    (hSound : state.Sound)
    (hResolve : state.resolve = .ok next) :
    next.Sound := by
  unfold ParseState.resolve at hResolve
  split at hResolve
  · cases hResolve
    exact hSound
  · rename_i form values hPending
    refine Sound.note ?_ (hSound.pending form values hPending)
      hResolve
    exact ⟨hSound.found, fun _ _ hNone => by cases hNone⟩

theorem Sound.complete
    (hSound : state.Sound)
    (hForm : form ∈ OptionForm.all)
    (hComplete : state.complete form values = .ok next) :
    next.Sound := by
  unfold ParseState.complete at hComplete
  split at hComplete
  · cases hComplete
  · rename_i resolved hResolve
    split at hComplete
    · cases hComplete
    · rename_i noted hNote
      cases hComplete
      have hNoted := (hSound.resolve hResolve).note hForm hNote
      exact ⟨hNoted.found, hNoted.pending⟩

theorem Sound.await
    (hSound : state.Sound)
    (hForm : form ∈ OptionForm.all)
    (hAwait : state.await form = .ok next) :
    next.Sound := by
  unfold ParseState.await at hAwait
  split at hAwait
  · cases hAwait
  · rename_i resolved hResolve
    cases hAwait
    refine ⟨(hSound.resolve hResolve).found, ?_⟩
    rintro other values ⟨⟩
    exact hForm

theorem Sound.addValue
    (hSound : state.Sound)
    (value : Text) :
    (state.addValue value).Sound := by
  unfold ParseState.addValue
  split
  · exact hSound
  · rename_i form values hPending
    refine ⟨hSound.found, ?_⟩
    rintro other values' ⟨⟩
    exact hSound.pending form values hPending

theorem Sound.addInput
    {input : Text}
    (hSound : state.Sound)
    (hInput : state.addInput input = .ok next) :
    next.Sound := by
  have hInputs : OptionForm.inputs ∈ OptionForm.all :=
    List.mem_cons_self
  unfold ParseState.addInput at hInput
  split at hInput
  · cases hInput
    refine ⟨hSound.found, ?_⟩
    rintro other values ⟨⟩
    exact hInputs
  · split at hInput
    · cases hInput
    · rename_i resolved hResolve
      cases hInput
      refine ⟨(hSound.resolve hResolve).found, ?_⟩
      rintro other values ⟨⟩
      exact hInputs

end ParseState

namespace CommandName

variable {state next : ParseState}

theorem mem_all_of_find?
    {test : OptionForm → Bool}
    {form : OptionForm}
    (hForm : main.options.find? test = some form) :
    form ∈ OptionForm.all :=
  List.mem_cons_of_mem _ (List.mem_of_find?_eq_some hForm)

theorem sound_readLong
    {name : Text}
    {value : Option Text}
    (hSound : state.Sound)
    (hRead : main.readLong state name value = .ok next) :
    next.Sound := by
  unfold readLong at hRead
  split at hRead
  · cases hRead
  · rename_i form hForm
    have hMem := mem_all_of_find? hForm
    split at hRead
    · exact hSound.complete hMem hRead
    · cases hRead
    · exact hSound.await hMem hRead
    · exact hSound.complete hMem hRead

/- Letters are read one after the other. -/
theorem sound_readShort
    {letters : Text}
    (hSound : state.Sound)
    (hRead : main.readShort state letters = .ok next) :
    next.Sound := by
  induction letters generalizing state with
  | nil =>
      cases hRead
      exact hSound
  | cons letter rest ih =>
      unfold readShort at hRead
      split at hRead
      · cases hRead
      · rename_i form hForm
        have hMem := mem_all_of_find? hForm
        split at hRead
        · split at hRead
          · cases hRead
          · rename_i completed hComplete
            exact ih (hSound.complete hMem hComplete) hRead
        · exact hSound.await hMem hRead
        · exact hSound.complete hMem hRead
        · exact hSound.complete hMem hRead

theorem sound_readPlain
    {word : Text}
    (hSound : state.Sound)
    (hRead : main.readPlain state word = .ok next) :
    next.Sound := by
  unfold readPlain at hRead
  split at hRead
  · cases hRead
    exact hSound.addValue word
  · split at hRead
    · exact hSound.addInput hRead
    · cases hRead

theorem sound_readArgument
    {word : Text}
    (hSound : state.Sound)
    (hRead : main.readArgument state word = .ok next) :
    next.Sound := by
  unfold readArgument at hRead
  split at hRead
  · exact sound_readPlain hSound hRead
  · split at hRead
    · cases hRead
      exact ⟨hSound.found, hSound.pending⟩
    · exact sound_readLong hSound hRead
    · exact sound_readShort hSound hRead
    · exact sound_readPlain hSound hRead

/- However long a command line is, what is found is sound. -/
theorem sound_read
    {words : List Text}
    {behind : Option (CommandName × List Text)}
    (hSound : state.Sound)
    (hRead : main.read state words = .ok (next, behind)) :
    next.Sound := by
  induction words generalizing state with
  | nil =>
      cases hRead
      exact hSound
  | cons word rest ih =>
      unfold read at hRead
      dsimp only at hRead
      split at hRead
      · cases hRead
      · cases hRead
        exact hSound
      · split at hRead
        · cases hRead
        · rename_i read hArgument
          exact ih (sound_readArgument hSound hArgument) hRead

end CommandName

/- What is given on a command line is sound. -/
theorem Options.sound_of_given
    {words : List Text}
    {found : Matches}
    (hGiven : given words = .ok found) :
    found.Sound := by
  obtain ⟨⟨state, behind⟩, hRead, hGiven⟩ :=
    exists_of_bind_eq_ok hGiven
  obtain ⟨resolved, hResolve, hGiven⟩ :=
    exists_of_bind_eq_ok hGiven
  cases hGiven
  have hStart : ({} : ParseState).Sound :=
    ⟨fun _ _ hMem => absurd hMem List.not_mem_nil,
      fun _ _ hNone => by cases hNone⟩
  exact ((CommandName.sound_read hStart hRead).resolve
    hResolve).found

------------------------------------------------------------
-- Values
------------------------------------------------------------

namespace Matches

/- The number that is given for an option. -/
def number?
    (found : Matches)
    (key : OptionKey) : Option Nat :=
  (found.value? key).bind Text.toNumber?

/- The colour mode that is given. -/
def mode?
    (found : Matches) : Option ColorMode :=
  (found.value? .color).bind ColorMode.ofWord?

/- What a flag says, if it is given. -/
def flag?
    (found : Matches)
    (key : OptionKey)
    (meaning : Bool) : Option Bool :=
  if found.has key then some meaning else none

/- Every option that is given can be read. -/
structure Readable
    (found : Matches) : Prop where
  number :
    ∀ key ∈ [OptionKey.maxDepth, .indentUnit, .debounce],
      found.has key = true → (found.number? key).isSome
  mode :
    found.has .color = true → found.mode?.isSome
  text :
    ∀ key ∈
        [OptionKey.baseDirectory, .glob, .oldName, .newName,
          .declaration, .marker, .wrapOpen, .wrapClose,
          .legacyClose, .backupExtension],
      found.has key = true → (found.value? key).isSome

/- An option with a value has one that it takes. -/
theorem Sound.exists_value
    {found : Matches}
    (hSound : found.Sound)
    {key : OptionKey}
    (kind : ValueKind)
    (hKind :
      ∀ form ∈ OptionForm.all,
        form.key = key → form.value = kind)
    (hTakes : kind ≠ .none)
    (hHas : found.has key = true) :
    ∃ value,
      found.value? key = some value ∧
        kind.check value = .ok () := by
  obtain ⟨values, hLookup⟩ := Option.isSome_iff_exists.mp hHas
  obtain ⟨before, behind, hFound, -⟩ :=
    List.lookup_eq_some_iff.mp hLookup
  have hMem : (key, values) ∈ found := by
    rw [hFound]
    exact List.mem_append_right _ List.mem_cons_self
  obtain ⟨form, hForm, hKey, hSome, hValues⟩ :=
    hSound key values hMem
  rw [hKind form hForm hKey] at hSome hValues
  obtain ⟨value, rest, rfl⟩ :=
    List.exists_cons_of_ne_nil (hSome hTakes)
  refine ⟨value, ?_, hValues value List.mem_cons_self⟩
  unfold value?
  rw [hLookup]
  rfl

/- What is given on a sound command line can be read. -/
theorem Sound.readable
    {found : Matches}
    (hSound : found.Sound) :
    found.Readable where
  number key hKey hHas := by
    have hKinds :
        ∀ key ∈ [OptionKey.maxDepth, .indentUnit, .debounce],
          ∀ form ∈ OptionForm.all,
            form.key = key → form.value = .number := by
      decide
    obtain ⟨value, hValue, hCheck⟩ :=
      hSound.exists_value .number (hKinds key hKey)
        (by decide) hHas
    unfold number?
    rw [hValue]
    unfold ValueKind.check at hCheck
    dsimp only at hCheck
    split at hCheck
    · assumption
    · cases hCheck
  mode hHas := by
    obtain ⟨value, hValue, hCheck⟩ :=
      hSound.exists_value .color (by decide) (by decide) hHas
    unfold mode?
    rw [hValue]
    unfold ValueKind.check at hCheck
    dsimp only at hCheck
    split at hCheck
    · assumption
    · cases hCheck
  text key hKey hHas := by
    have hKinds :
        ∀ key ∈
            [OptionKey.baseDirectory, .glob, .oldName,
              .newName, .declaration, .marker, .wrapOpen,
              .wrapClose, .legacyClose, .backupExtension],
          ∃ kind ∈ [ValueKind.text, .path],
            ∀ form ∈ OptionForm.all,
              form.key = key → form.value = kind := by
      decide
    obtain ⟨kind, hKind, hForms⟩ := hKinds key hKey
    have hTakes : kind ≠ .none := by
      rintro rfl
      exact absurd hKind (by decide)
    obtain ⟨value, hValue, -⟩ :=
      hSound.exists_value kind hForms hTakes hHas
    rw [hValue]
    rfl

end Matches

end NotifyScope
