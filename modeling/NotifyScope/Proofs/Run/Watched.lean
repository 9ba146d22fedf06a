import NotifyScope.Proofs.Host.Agree
import NotifyScope.Proofs.Run.Batch
import NotifyScope.Proofs.Run.Documents
import NotifyScope.Run.Watch

/-
  Files that are rewritten as they would be under a watch,
  side by side with a batch.  Both load a file in the same
  way and save the same for it, so that files rewritten one
  after the other leave the same disk either way, even where
  one of them reads what another has written.

  Key definitions include:
    * `Watch.each`
    * `Watch.logged`

  Main declarations:
    * `Session.agree_load`
    * `Session.agree_store`
    * `Batch.agree_handle`
    * `Batch.agree_steps`
    * `Batch.adds_log`
    * `Watch.each_agrees_with_batch`
-/

namespace NotifyScope

variable {σ δ : Type}
variable [Host (StateM σ)]
variable {view : σ → δ}
variable {session : Session}

------------------------------------------------------------
-- Loading and Saving
------------------------------------------------------------

namespace Session

/- The same document, however long it took. -/
def SameDocument
    (left right : Processed) : Prop :=
  left.document = right.document

section Files

variable (hDecided : Host.Decided view)
include hDecided

theorem agree_rewriteDecoded
    (name : String)
    (decoded : Except Failure Text) :
    Task.Agree view SameDocument
      (session.rewriteDecoded name decoded)
      (session.rewriteDecoded name decoded) := by
  cases decoded with
  | error failure => exact Task.agree_throw failure
  | ok text =>
      have hKeeps := keeps_rewrite hDecided.looking
        (hDecided.talking.on session.console) name text
      intro first second hView
      refine ⟨.ok rfl, ?_⟩
      exact (hKeeps first).trans
        (hView.trans (hKeeps second).symm)

/- What is loaded depends on the view. -/
theorem agree_load
    (path : Path) :
    Task.Agree view SameDocument (session.load path)
      (session.load path) := by
  refine (Task.Agree.lift (hDecided.info path)).bind ?_
  rintro info _ rfl
  split
  · exact Task.agree_pure rfl
  · exact Task.agree_throw _
  · split
    · exact Task.agree_throw _
    · refine
        (Host.agree_attempt _ (hDecided.read path)).bind ?_
      rintro content _ rfl
      exact agree_rewriteDecoded hDecided _ _

/- What is saved depends on the view. -/
theorem agree_store
    (path : Path)
    (document : Document) :
    Task.Agree view Eq (session.store path document)
      (session.store path document) := by
  have hSay := fun text =>
    Console.keeps_say (hDecided.talking.on session.console)
      .dim text
  have hWrite :=
    Host.agree_attempt
      ("Failed to write to file: " ++ Text.str path)
      (hDecided.write path (Utf8.encode document.rewritten))
  unfold store
  split
  · refine
      (Host.agree_attempt _ (hDecided.copy path _)).bind ?_
    intro _ _ _
    refine Task.Agree.skip_left (hSay _) fun _ => ?_
    exact Task.Agree.skip_right (hSay _) fun _ => hWrite
  · exact hWrite

end Files

end Session

------------------------------------------------------------
-- Files
------------------------------------------------------------

namespace Watch

/- Rewrite files one after the other, as under a watch. -/
def each
    {m : Type → Type}
    [Monad m]
    [Host m]
    (session : Session)
    (paths : List Path) :
    m (List (Except Failure (Document × Bool))) :=
  paths.mapM fun path =>
    (rewrite session path : Task m (Document × Bool)).run

/- What a watch gives for a document that it rewrote. -/
def entry
    (processed : Processed) : Document × Bool :=
  (processed.document, processed.document.wouldChange)

end Watch

namespace Batch

/-
  A file of a batch that saves its files, and the same file
  under a watch.
-/
theorem agree_handle
    (hDecided : Host.Decided view)
    (hDryRun : session.settings.dryRun = false)
    (hDiff : session.settings.diff = false)
    (path : Path) :
    Task.Agree view
      (fun processed watched =>
        watched = Watch.entry processed)
      (handle session path) (Watch.rewrite session path) := by
  refine (Session.agree_load hDecided path).bind ?_
  intro left right hSame
  have hSaves :
      session.saves left.document =
        left.document.wouldChange := by
    unfold Session.saves
    rw [hDryRun, hDiff]
    rfl
  have hEntry :
      (right.document, right.document.wouldChange) =
        Watch.entry left := by
    unfold Watch.entry
    rw [hSame]
  have hReport := Session.keeps_report
    (hDecided.talking.on session.console)
  have hComplain := hDecided.talking.complain
  unfold Session.emit
  rw [bind_assoc]
  refine Task.Agree.skip_left (hReport _) fun _ => ?_
  rw [bind_assoc]
  refine Task.Agree.skip_left
    (session.keeps_present hDecided.talking _ _) fun _ => ?_
  refine Task.Agree.skip_right (hReport _) fun _ => ?_
  rw [hSaves, hSame]
  split
  · refine (Session.agree_store hDecided path _).bind ?_
    intro _ _ _
    exact Task.Agree.skip_right (hComplain _) fun _ =>
      Task.agree_pure hEntry
  · rw [pure_bind]
    exact Task.Agree.skip_right (hComplain _) fun _ =>
      Task.agree_pure hEntry

/- The log goes on with what is left by the first file. -/
theorem log_cons
    (batch : Batch)
    (session : Session)
    (path : Path)
    (rest : List Path)
    (state : σ) :
    log session (path :: rest) state =
      (Text.str path,
          ((handle session path :
            Task (StateM σ) Processed).run.run state).1) ::
        log session rest
          ((step session batch path : StateM σ Batch).run
            state).2 := by
  rw [state_step]
  rfl

/- What a step leaves is what handling its file leaves. -/
theorem view_step
    (hTalk : Host.Talking (.same view))
    (session : Session)
    (batch : Batch)
    (path : Path)
    (state : σ) :
    view ((step session batch path : StateM σ Batch).run
        state).2 =
      view ((handle session path :
        Task (StateM σ) Processed).run.run state).2 := by
  unfold step
  rw [StateT.run_bind]
  generalize
    (handle session path : Task (StateM σ) Processed).run.run
      state = handled
  rcases handled with ⟨result, handled⟩
  cases result with
  | ok processed => rfl
  | error failure => exact hTalk.complain _ handled

/-
  Files of a batch, and the same files under a watch.  Both
  leave the same files behind each step, so that the next one
  reads the same.
-/
theorem agree_steps
    (hDecided : Host.Decided view)
    (hDryRun : session.settings.dryRun = false)
    (hDiff : session.settings.diff = false)
    (paths : List Path)
    (batch : Batch)
    {first second : σ}
    (hView : view first = view second) :
    let stepped :=
      (paths.foldlM (step session) batch :
        StateM σ Batch).run first
    let watched :=
      (Watch.each session paths : StateM σ _).run second
    watched.1 =
        (log session paths first).map
          (fun entry => entry.2.map Watch.entry) ∧
      view stepped.2 = view watched.2 := by
  induction paths generalizing batch first second with
  | nil => exact ⟨rfl, hView⟩
  | cons path rest ih =>
      have hHandled := agree_handle hDecided hDryRun hDiff path
        first second hView
      have hStep := view_step hDecided.talking session batch
        path first
      rcases hHandled with ⟨hEntry, hAfter⟩
      rcases ih ((step session batch path :
          StateM σ Batch).run first).1
          (hStep.trans hAfter) with
        ⟨hRest, hLast⟩
      have hResult := Task.map_of_related hEntry
      unfold Watch.each at hRest hLast ⊢
      rw [log_cons batch, List.foldlM_cons, List.mapM_cons]
      exact ⟨congrArg₂ List.cons hResult hRest, hLast⟩

/- What became of a file is what is added to a batch. -/
theorem adds_step
    (session : Session)
    (batch : Batch)
    (path : Path)
    (state : σ) :
    batch.Adds
      ((step session batch path : StateM σ Batch).run
        state).1
      [Processed.result
        ((handle session path :
          Task (StateM σ) Processed).run.run state).1] := by
  unfold step
  rw [StateT.run_bind]
  generalize
    (handle session path : Task (StateM σ) Processed).run.run
      state = handled
  rcases handled with ⟨result, handled⟩
  cases result with
  | ok processed => exact batch.adds_record processed
  | error failure => exact batch.adds_fail path failure

/- What became of the files is what is added to a batch. -/
theorem adds_log
    (session : Session)
    (paths : List Path)
    (batch : Batch)
    (state : σ) :
    batch.Adds
      ((paths.foldlM (step session) batch :
        StateM σ Batch).run state).1
      ((log session paths state).map fun entry =>
        Processed.result entry.2) := by
  induction paths generalizing batch state with
  | nil => exact .refl batch
  | cons path rest ih =>
      have hStep := adds_step session batch path state
      have hRest := ih ((step session batch path :
          StateM σ Batch).run state).1
        ((step session batch path : StateM σ Batch).run
          state).2
      rw [log_cons batch, List.foldlM_cons]
      exact hStep.trans hRest

end Batch

------------------------------------------------------------
-- Exit Codes
------------------------------------------------------------

namespace Watch

/- What a watch comes to with the results of its files. -/
def logged
    (results : List (Except Failure (Document × Bool))) :
    WatchLog :=
  results.foldl
    (fun tally result =>
      match result with
      | .ok (document, written) =>
          tally.record document.outcome written
      | .error _ => tally) {}

/- What a watch comes to, in terms of the documents. -/
theorem logged_map_entry
    (results : List (Except Failure Processed)) :
    logged (results.map (·.map entry)) =
      { anyChanges :=
          (results.map Processed.result).any fun result =>
            result.toOption.any Document.wouldChange
        incomplete :=
          (results.map Processed.result).any fun result =>
            result.toOption.any (·.outcome.isFailure) } := by
  have hFold : ∀ tally : WatchLog,
      (results.map (·.map entry)).foldl
          (fun tally result =>
            match result with
            | .ok (document, written) =>
                tally.record document.outcome written
            | .error _ => tally) tally =
        { anyChanges := tally.anyChanges ||
            (results.map Processed.result).any fun result =>
              result.toOption.any Document.wouldChange
          incomplete := tally.incomplete ||
            (results.map Processed.result).any fun result =>
              result.toOption.any (·.outcome.isFailure) } := by
    induction results with
    | nil =>
        intro tally
        simp
    | cons result rest ih =>
        intro tally
        rw [List.map_cons, List.foldl_cons, ih]
        cases result with
        | ok processed =>
            simp [WatchLog.record, Except.map, entry,
              Processed.result, Except.toOption,
              Bool.or_assoc]
        | error failure =>
            simp [Except.map, Processed.result,
              Except.toOption]
  unfold logged
  rw [hFold]
  rfl

/-
  If no file fails, a batch ends with the exit code that a
  watch comes to with what became of the files.
-/
theorem exitCode_of_log
    {session : Session}
    (hDryRun : session.settings.dryRun = false)
    {paths : List Path}
    {world : World}
    (hOk : ∀ file ∈ Batch.log session paths world,
      file.2.isOk = true) :
    ((Batch.run session paths :
        Task InMemory RunResult).run.run world).1.map
        RunResult.exitCode =
      .ok (logged
        ((Batch.log session paths world).map fun file =>
          file.2.map entry)).outcome.exitCode := by
  have hAdds := Batch.adds_log session paths {} world
  have hNone :
      ((Batch.log session paths world).map fun file =>
          Processed.result file.2).filterMap Batch.kind? =
        [] := by
    rw [List.filterMap_eq_nil_iff]
    intro result hMem
    rcases List.mem_map.mp hMem with ⟨file, hFile, rfl⟩
    have hHere := hOk file hFile
    cases hCase : file.2 with
    | ok processed => rfl
    | error failure =>
        rw [hCase] at hHere
        cases hHere
  have hKinds := hAdds.kinds
  have hChange := hAdds.wouldChange
  have hIncomplete := hAdds.incomplete
  rw [hNone] at hKinds
  rw [Bool.false_or] at hChange hIncomplete
  have hLogged := logged_map_entry
    ((Batch.log session paths world).map Prod.snd)
  rw [List.map_map, List.map_map] at hLogged
  rw [(Batch.run_eq_result session paths world).1, hDryRun]
  unfold Batch.result
  rw [Batch.failure?_eq_none_iff.mpr hKinds]
  refine congrArg Except.ok ?_
  refine Eq.trans ?_
    (congrArg (·.outcome.exitCode) hLogged).symm
  dsimp only [Batch.outcome, WatchLog.outcome]
  rw [hChange, hIncomplete]
  rfl

/-
  Files that are rewritten one after the other, as they would
  be under a watch, leave the disk that a batch of the same
  files leaves, backups included.  What becomes of each file
  is the same as well, so that the same ones fail; and if
  none does, a watch comes to the exit code of the batch.
-/
theorem each_agrees_with_batch
    {session : Session}
    (hDryRun : session.settings.dryRun = false)
    (hDiff : session.settings.diff = false)
    (paths : List Path)
    (world : World) :
    let watched :=
      (each session paths : InMemory _).run world
    let batch :=
      (Batch.run session paths :
        Task InMemory RunResult).run.run world
    watched.2.disk = batch.2.disk ∧
      watched.1 =
          (Batch.log session paths world).map
            (fun file => file.2.map entry) ∧
        ((∀ result ∈ watched.1, result.isOk = true) →
          batch.1.map RunResult.exitCode =
            .ok (logged watched.1).outcome.exitCode) := by
  intro watched batch
  have hSame : InMemory.files world = InMemory.files world :=
    rfl
  have hSteps := Batch.agree_steps InMemory.decided hDryRun
    hDiff paths {} hSame
  rcases hSteps with ⟨hResults, hFiles⟩
  have hDisk := (Batch.run_eq_result session paths world).2
  refine ⟨(congrArg Prod.fst hFiles).symm.trans hDisk.symm,
    hResults, fun hOk => ?_⟩
  have hEach : watched.1 =
      (Batch.log session paths world).map fun file =>
        file.2.map entry := hResults
  rw [hEach] at hOk ⊢
  refine exitCode_of_log hDryRun fun file hFile => ?_
  have hHere := hOk _ (List.mem_map_of_mem hFile)
  cases hCase : file.2 with
  | ok processed => rfl
  | error failure =>
      rw [hCase] at hHere
      cases hHere

/- A file, the backup that this leaves, and the file again. -/
theorem each_agrees_with_batch_backup :
    let session : Session :=
      { settings :=
          Settings.ofParts { backup := true } {} none 2
            RuleSpec.builtIn.check.toOption.toList
        console := { colored := false, verbose := false } }
    let text := "void _generateQuestion() \x7b\n\x7d\n".toList
    let world : World :=
      { disk :=
          { nodes :=
              [(["a.dart".toList],
                .file (.bytes (Utf8.encode text)))] } }
    let paths :=
      ["a.dart".toList, "a.dart.bak".toList, "a.dart".toList]
    session.settings.dryRun = false ∧
      session.settings.diff = false ∧
      (∀ result ∈
        ((each session paths : InMemory _).run world).1,
          result.isOk = true) ∧
      ((each session paths : InMemory _).run world).2.disk =
        ((Batch.run session paths :
          Task InMemory RunResult).run.run world).2.disk ∧
      ((Batch.run session paths :
          Task InMemory RunResult).run.run world).1.map
        RunResult.exitCode = .ok 0 := by
  intro session text world paths
  have hOk :
      ∀ result ∈
        ((each session paths : InMemory _).run world).1,
          result.isOk = true := by
    decide +kernel
  have hTally :
      (logged ((each session paths :
        InMemory _).run world).1).outcome.exitCode = 0 := by
    decide +kernel
  rcases @each_agrees_with_batch session rfl rfl paths world
    with ⟨hDisk, _, hCode⟩
  exact ⟨rfl, rfl, hOk, hDisk,
    (hCode hOk).trans (congrArg Except.ok hTally)⟩

end Watch

end NotifyScope
