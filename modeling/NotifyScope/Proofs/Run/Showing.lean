import NotifyScope.Proofs.Run.Looking
import NotifyScope.Run.Batch

/-
  What a run does with an input.  It is read, rewritten and
  shown, and saved if need be.  Where a console keeps quiet,
  reading and rewriting print nothing.

  Key definitions include:
    * `Console.Talking`

  Main declarations:
    * `Session.keeps_load`
    * `Session.keeps_present`
    * `Session.keeps_emit`
-/

namespace NotifyScope

variable {σ : Type}
variable {frame : Frame σ}
variable [Host (StateM σ)]

------------------------------------------------------------
-- Consoles
------------------------------------------------------------

namespace Console

theorem keeps_ofSettings
    (hLook : Host.Looking frame)
    (settings : Settings) :
    Keeps frame (ofSettings settings : StateM σ _) := by
  have hColors :
      Keeps frame (hasColors settings.color : StateM σ _) := by
    unfold hasColors
    split
    · exact keeps_pure _
    · exact keeps_pure _
    · refine (hLook.environment _).bind fun without => ?_
      split
      · exact keeps_pure _
      · refine (hLook.environment _).bind fun forced => ?_
        split
        · exact keeps_pure _
        · exact hLook.isTerminal
  exact hColors.bind fun _ => keeps_pure _

/-
  What a console tells is within a frame.  It prints only if
  it shows more than what concerns everyone.
-/
structure Talking
    (frame : Frame σ)
    (console : Console) : Prop where
  output :
    console.verbose = true →
      ∀ text, Keeps frame (Host.output text : StateM σ _)
  complain :
    ∀ text, Keeps frame (Host.complain text : StateM σ _)

end Console

theorem Host.Talking.on
    (hTalk : Host.Talking frame)
    (console : Console) :
    console.Talking frame where
  output _ := hTalk.output
  complain := hTalk.complain

namespace Console

variable {console : Console}
variable (hTalk : console.Talking frame)
include hTalk

theorem keeps_say
    (tone : Tone)
    (text : String) :
    Keeps frame (console.say tone text : StateM σ _) := by
  unfold say
  split
  · rename_i hVerbose
    exact hTalk.output hVerbose _
  · exact keeps_pure _

theorem keeps_tell
    (message : Document.Message) :
    Keeps frame (console.tell message : StateM σ _) := by
  cases message with
  | notice text => exact hTalk.complain _
  | progress tone text => exact keeps_say hTalk _ _

end Console

------------------------------------------------------------
-- Inputs
------------------------------------------------------------

namespace Session

section Reading

variable {session : Session}
variable (hLook : Host.Looking frame)
variable (hTalk : session.console.Talking frame)
include hLook hTalk

theorem keeps_rewrite
    (name : String)
    (text : Text) :
    Keeps frame (session.rewrite name text : StateM σ _) := by
  refine hLook.clock.bind fun started => ?_
  refine Keeps.bind ?_ fun _ => ?_
  · refine Keeps.forIn (fun event => ?_) _
    exact Console.keeps_say hTalk _ _
  · exact hLook.clock.bind fun stopped => keeps_pure _

theorem keeps_rewriteDecoded
    (name : String)
    (decoded : Except Failure Text) :
    Task.Keeps frame
      (session.rewriteDecoded name decoded :
        Task (StateM σ) _) := by
  cases decoded with
  | error failure => exact Task.keeps_throw _
  | ok text =>
      exact Task.Keeps.lift
        (keeps_rewrite hLook hTalk name text)

/- Loading a file keeps within a frame. -/
theorem keeps_load
    (path : Path) :
    Task.Keeps frame
      (session.load path : Task (StateM σ) _) := by
  refine (Task.Keeps.lift (hLook.info path)).bind ?_
  intro info
  split
  · exact Task.keeps_pure _
  · exact Task.keeps_throw _
  · split
    · exact Task.keeps_throw _
    · refine
        (Host.keeps_attempt _ (hLook.read path)).bind ?_
      intro content
      exact keeps_rewriteDecoded hLook hTalk _ _

/- Loading the standard input keeps within a frame. -/
theorem keeps_loadInput :
    Task.Keeps frame
      (session.loadInput : Task (StateM σ) _) :=
  (Host.keeps_attempt _ hLook.input).bind fun _ =>
    keeps_rewriteDecoded hLook hTalk _ _

end Reading

------------------------------------------------------------
-- Results
------------------------------------------------------------

section Telling

variable {session : Session}
variable (hTalk : session.console.Talking frame)
include hTalk

theorem keeps_report
    (document : Document) :
    Keeps frame (session.report document : StateM σ _) := by
  unfold report
  split
  · exact keeps_pure _
  · exact Console.keeps_tell hTalk _

theorem keeps_summarize
    (stats : Stats)
    (tally : Tally)
    (errors : Nat) :
    Keeps frame
      (session.summarize stats tally errors :
        StateM σ _) := by
  unfold summarize
  split
  · rename_i hVerbose
    refine Keeps.bind ?_ fun _ => keeps_pure _
    exact Keeps.forIn
      (fun line => hTalk.output hVerbose _) _
  · exact keeps_pure _

/- Saving a document keeps within a frame. -/
theorem keeps_store
    (hSave : Host.Saving frame)
    (path : Path)
    (document : Document) :
    Task.Keeps frame
      (session.store path document : Task (StateM σ) _) := by
  have hWrite :
      Task.Keeps frame
        (Host.attempt
          ("Failed to write to file: " ++ Text.str path)
          (Host.write path (Utf8.encode document.rewritten)) :
          Task (StateM σ) _) :=
    Host.keeps_attempt _ (hSave.write _ _)
  unfold store
  split
  · refine
      (Host.keeps_attempt _ (hSave.copy _ _)).bind fun _ => ?_
    refine
      (Task.Keeps.lift
        (Console.keeps_say hTalk _ _)).bind fun _ => hWrite
  · exact hWrite

end Telling

section Showing

variable (hTalk : Host.Talking frame)
include hTalk

theorem keeps_showDiff
    (proposed : Bool)
    (document : Document) :
    Keeps frame (showDiff proposed document : StateM σ _) := by
  unfold showDiff
  split
  · exact hTalk.output _
  · exact keeps_pure _

theorem keeps_showDryRun
    (session : Session)
    (document : Document) :
    Keeps frame
      (session.showDryRun document : StateM σ _) := by
  have hMessages :
      Keeps frame
        (forIn document.dryRunReport PUnit.unit
          fun message _ => do
            session.console.tell message
            pure (ForInStep.yield PUnit.unit) :
          StateM σ _) :=
    Keeps.forIn
      (fun message =>
        Console.keeps_tell (hTalk.on _) message) _
  unfold showDryRun
  split
  · exact (keeps_showDiff hTalk _ _).bind fun _ => hMessages
  · exact hMessages

/- Showing a document keeps within a frame in every mode. -/
theorem keeps_present
    (session : Session)
    (withContent : Bool)
    (document : Document) :
    Keeps frame
      (session.present withContent document :
        StateM σ _) := by
  unfold present
  split_ifs
  · exact hTalk.output _
  · exact session.keeps_showDryRun hTalk document
  · exact keeps_showDiff hTalk _ _
  · exact keeps_pure _

/- A document is shown, and saved only if it is to be saved. -/
theorem keeps_emit
    {session : Session}
    {document : Document}
    (hSaves :
      session.saves document = true → Host.Saving frame)
    (path : Path) :
    Task.Keeps frame
      (session.emit path document : Task (StateM σ) _) := by
  have hTell := hTalk.on session.console
  unfold emit
  refine
    (Task.Keeps.lift
      (keeps_report hTell document)).bind fun _ => ?_
  refine
    (Task.Keeps.lift
      (session.keeps_present hTalk false document)).bind fun _ => ?_
  split
  · rename_i hSave
    exact keeps_store hTell (hSaves hSave) path document
  · exact Task.keeps_pure _

end Showing

end Session

end NotifyScope
