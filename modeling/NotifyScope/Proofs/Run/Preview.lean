import NotifyScope.Proofs.Options.Given
import NotifyScope.Proofs.Run.Running

/-
  Runs that only show what they would do.  Neither a dry run
  nor one that shows differences comes to saving a document.
  The settings file has no say in this, and a run that watches
  files is never one of them.

  Key definitions include:
    * `Settings.IsPreview`

  Main declarations:
    * `Program.keeps_run`
    * `Program.disk_run_of_preview`
-/

namespace NotifyScope

/- Whether a run only shows what it would do. -/
def Settings.IsPreview
    (settings : Settings) : Prop :=
  settings.dryRun = true ∨ settings.diff = true

/- A preview saves no document, whatever was changed. -/
theorem Session.saves_of_isPreview
    {session : Session}
    (hPreview : session.settings.IsPreview)
    (document : Document) :
    session.saves document = false := by
  unfold saves
  rcases hPreview with hDryRun | hDiff
  · rw [hDryRun]
    rfl
  · rw [hDiff, Bool.not_true, Bool.and_false,
      Bool.false_and]

namespace Program

variable {σ : Type}
variable {frame : Frame σ}
variable [Host (StateM σ)]

/-
  On every system, a preview does nothing but look around and
  write to the console.
-/
theorem keeps_run
    (hLook : Host.Looking frame)
    (hTalk : Host.Talking frame)
    {options : Options}
    (hPreview :
      options.dryRun = true ∨ options.diff = true)
    (hWatch : options.watch = false) :
    Task.Keeps frame
      (run options : Task (StateM σ) RunResult) := by
  unfold run
  split
  · exact Task.keeps_throw _
  · refine Task.Keeps.bind_of_yields
      (keeps_start hLook hTalk options)
      (yields_start options) ?_
    rintro session ⟨file, hMerge⟩
    obtain ⟨hDryRun, hDiff, hWatches⟩ :=
      Settings.modes_of_merge hMerge
    split
    · rw [← hDryRun, ← hDiff] at hPreview
      refine keeps_runFiles hLook hTalk (fun document hSave => ?_)
        (hWatches.trans hWatch) options
      rw [Session.saves_of_isPreview hPreview] at hSave
      cases hSave
    · exact keeps_runInput hLook hTalk session

/-
  A dry run and one that shows differences leave all files as
  they were and create none, whatever the settings file says,
  and whether they succeed or fail.
-/
theorem disk_run_of_preview
    {words : List Text}
    {options : Options}
    (hWords : Options.parse words = .ok options)
    (hPreview :
      options.dryRun = true ∨ options.diff = true)
    (world : World) :
    ((run options : Task InMemory RunResult).run.run
      world).2.disk = world.disk := by
  have hKeeps :=
    keeps_run (InMemory.looking _) InMemory.talking hPreview
      (Options.watch_of_parse hWords hPreview)
  exact congrArg Prod.fst (hKeeps world)

/- A dry run over a file that would change, with a backup. -/
theorem disk_run_of_preview_unwrapped :
    let words :=
      ["--dry-run".toList, "--backup".toList, "a.dart".toList]
    let options : Options :=
      { inputs := ["a.dart".toList]
        dryRun := true
        backup := true }
    let text := "void _generateQuestion() \x7b\n\x7d\n".toList
    let world : World :=
      { disk :=
          { nodes :=
              [(["a.dart".toList],
                .file (.bytes (Utf8.encode text)))] } }
    Options.parse words = .ok options ∧
      options.dryRun = true ∧
        ((run options : Task InMemory RunResult).run.run
          world).2.disk = world.disk := by
  have hWords :
      Options.parse
          ["--dry-run".toList, "--backup".toList,
            "a.dart".toList] =
        .ok
          { inputs := ["a.dart".toList]
            dryRun := true
            backup := true } := by
    rfl
  exact ⟨hWords, rfl,
    disk_run_of_preview hWords (.inl rfl) _⟩

end Program

end NotifyScope
