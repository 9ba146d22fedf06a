import NotifyScope.Proofs.Run.Showing
import NotifyScope.Proofs.Settings.Merged
import NotifyScope.Run.Program

/-
  What a whole run does to the system.  It looks around,
  writes to the console, and saves documents, which is the
  one thing in it that changes files.

  Main declarations:
    * `Batch.keeps_run`
    * `Program.keeps_runInput`
    * `Program.keeps_runFiles`
    * `Program.keeps_start`
    * `Program.yields_start`
-/

namespace NotifyScope

variable {σ : Type}
variable {frame : Frame σ}
variable [Host (StateM σ)]

------------------------------------------------------------
-- Batches
------------------------------------------------------------

namespace Batch

variable {session : Session}
variable (hLook : Host.Looking frame)
variable (hTalk : Host.Talking frame)
variable
  (hSaves :
    ∀ document,
      session.saves document = true → Host.Saving frame)
include hLook hTalk hSaves

theorem keeps_handle
    (path : Path) :
    Task.Keeps frame
      (handle session path : Task (StateM σ) _) := by
  refine
    (Session.keeps_load hLook (hTalk.on _) path).bind ?_
  intro processed
  refine Task.Keeps.bind ?_ fun _ => Task.keeps_pure _
  exact Session.keeps_emit hTalk (hSaves _) path

theorem keeps_step
    (batch : Batch)
    (path : Path) :
    Keeps frame (step session batch path : StateM σ _) := by
  refine Keeps.bind
    (keeps_handle hLook hTalk hSaves path) fun result => ?_
  cases result with
  | ok processed => exact keeps_pure _
  | error failure =>
      exact (hTalk.complain _).bind fun _ => keeps_pure _

/- However many files there are, a batch stays in a frame. -/
theorem keeps_run
    (paths : List Path) :
    Task.Keeps frame
      (run session paths : Task (StateM σ) _) := by
  refine
    (Task.Keeps.lift
      (Keeps.foldlM
        (keeps_step hLook hTalk hSaves) paths {})).bind ?_
  intro batch
  refine
    (Task.Keeps.lift
      (Session.keeps_summarize (hTalk.on _) _ _ _)).bind
        fun _ => ?_
  cases batch.failure? with
  | some failure => exact Task.keeps_throw _
  | none => exact Task.keeps_pure _

end Batch

------------------------------------------------------------
-- Programs
------------------------------------------------------------

namespace Program

section Runs

variable (hLook : Host.Looking frame)
variable (hTalk : Host.Talking frame)
include hLook hTalk

/- The standard input is never saved. -/
theorem keeps_runInput
    (session : Session) :
    Task.Keeps frame
      (runInput session : Task (StateM σ) _) := by
  have hTell := hTalk.on session.console
  refine (Session.keeps_loadInput hLook hTell).bind ?_
  intro processed
  refine
    (Task.Keeps.lift
      (Session.keeps_report hTell _)).bind fun _ => ?_
  have hRest : ∀ shown : Unit,
      Task.Keeps frame
        (do
          session.summarize (m := StateM σ) processed.stats
            (Tally.record {} processed.document.outcome) 0
          return {
            dryRun := session.settings.dryRun
            wouldChange := processed.document.wouldChange
            incomplete :=
              processed.document.outcome.isFailure } :
          Task (StateM σ) RunResult) := fun _ =>
    (Task.Keeps.lift
      (Session.keeps_summarize hTell _ _ _)).bind fun _ =>
        Task.keeps_pure _
  dsimp only
  split
  · exact (Task.Keeps.lift
      (session.keeps_present hTalk true _)).bind hRest
  · exact (Task.Keeps.lift (hTalk.output _)).bind hRest

omit hLook hTalk in
theorem keeps_warnNothing
    {session : Session}
    (hTalk : session.console.Talking frame) :
    Keeps frame (warnNothing session : StateM σ _) := by
  unfold warnNothing
  dsimp only
  split
  · exact Console.keeps_say hTalk _ _
  · exact hTalk.complain _

/- A run on files that does not wait for changes. -/
theorem keeps_runFiles
    {session : Session}
    (hSaves :
      ∀ document,
        session.saves document = true → Host.Saving frame)
    (hWatch : session.settings.watch = false)
    (options : Options) :
    Task.Keeps frame
      (runFiles session options : Task (StateM σ) _) := by
  refine
    (Inputs.keeps_resolve hLook options _).bind fun found => ?_
  refine Task.Keeps.bind ?_ fun _ => ?_
  · refine Task.Keeps.forIn (fun complaint => ?_) _
    exact Task.Keeps.lift
      (Console.keeps_say (hTalk.on _) _ _)
  · rw [hWatch]
    split
    · contradiction
    · split
      · exact (Task.Keeps.lift
          (keeps_warnNothing (hTalk.on _))).bind
            fun _ => Task.keeps_pure _
      · exact Batch.keeps_run hLook hTalk hSaves _

/- A session starts with reading the settings. -/
theorem keeps_start
    (options : Options) :
    Task.Keeps frame
      (start options : Task (StateM σ) _) := by
  refine (Settings.keeps_load hLook options).bind ?_
  intro settings
  refine
    (Task.Keeps.lift
      (Console.keeps_ofSettings hLook settings)).bind ?_
  intro console
  refine Task.Keeps.bind ?_ fun _ => Task.keeps_pure _
  refine Task.Keeps.forIn (fun rule => ?_) _
  exact Task.Keeps.lift
    (Console.keeps_say (hTalk.on console) _ _)

end Runs

/- A session has settings that were merged. -/
theorem yields_start
    (options : Options) :
    Task.Yields
      (fun session : Session =>
        ∃ file,
          Settings.merge options file = .ok session.settings)
      (start options : Task (StateM σ) _) := by
  refine (Settings.yields_load options).bind ?_
  intro settings hMerge
  refine (Task.yields_something _).bind fun console _ => ?_
  refine (Task.yields_something _).bind fun _ _ => ?_
  intro state session hOk
  cases hOk
  exact hMerge

end Program

end NotifyScope
