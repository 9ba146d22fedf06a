import NotifyScope.Proofs.Run.OnlyJson
import NotifyScope.Proofs.Run.Quiet

/-
  The program as a filter, side by side with a run on one
  file.  The bytes of the file on the standard input lead to
  the same exit code.  What is printed is what the file ends
  up with, or in a preview what is printed for the file, but
  for its name.

  Key definitions include:
    * `Settings.IsPlain`
    * `Program.Opens`
    * `Diff.heading`

  Main declarations:
    * `Program.run_runInput_of_ok`
    * `Batch.run_single_of_ok`
    * `Program.run_single`
    * `Program.filter_agrees_with_file`
-/

namespace NotifyScope

------------------------------------------------------------
-- Diffs
------------------------------------------------------------

namespace Diff

/- The lines of a diff that name the text. -/
def heading
    (name : String)
    (proposed : Bool) : Text :=
  ("--- a/" ++ name ++ "\n").toList ++
    ("+++ b/" ++ name ++
      (if proposed then " (proposed)" else "") ++
      "\n").toList

/- The other lines of a diff, which no name is part of. -/
def body
    (before after : Text) : Text :=
  let old := (splitLines before).toArray
  let new := (splitLines after).toArray
  ((compare old new).flatMap (Hunk.lines old new)).flatten

theorem unified_of_ne
    {before after : Text}
    (hNe : before ≠ after)
    (name : String)
    (proposed : Bool) :
    unified name proposed before after =
      heading name proposed ++ body before after :=
  if_neg hNe

end Diff

variable {session : Session}
variable {world : World}
variable {text : Text}

/-
  What is printed of a text beside the text itself is the
  same for every name but for the lines with the name.
-/
theorem Session.exists_shown_processed
    (session : Session)
    (text : Text) :
    ∃ lines : Option Text, ∀ name,
      session.shown (session.processed name text).document =
        lines.elim []
          (Diff.heading name session.settings.dryRun ++ ·) := by
  unfold shown Document.changes
  cases session.settings.diff with
  | false => exact ⟨none, fun name => rfl⟩
  | true =>
      have hSame : ∀ name,
          (session.processed name text).document.wouldChange =
            (session.processed "" text).document.wouldChange :=
        fun _ => rfl
      simp only [hSame, if_true]
      cases hChange :
          (session.processed "" text).document.wouldChange with
      | false => exact ⟨none, fun name => rfl⟩
      | true =>
          exact ⟨some _, fun name =>
            Diff.unified_of_ne (of_decide_eq_true hChange)
              name _⟩

------------------------------------------------------------
-- Settings
------------------------------------------------------------

/-
  Files are neither watched nor looked for, there is neither a
  report nor a backup, and nobody asks for more messages.
-/
structure Settings.IsPlain
    (settings : Settings) : Prop where
  watch : settings.watch = false
  recursive : settings.recursive = false
  verbose : settings.verbose = false
  json : settings.json = false
  backup : settings.backup = false

------------------------------------------------------------
-- Standard Input
------------------------------------------------------------

namespace Program

section Input

variable (hQuiet : session.Quiet)
include hQuiet

theorem run_runInput_of_error
    {failure : Failure}
    (hData :
      decodeBytes world.input "stdin" = .error failure) :
    (runInput session : Task InMemory RunResult).run.run
        world =
      (.error failure, world) := by
  unfold runInput
  rw [Task.run_bind, Session.run_loadInput hQuiet, hData]
  rfl

/- The text is printed, or in a preview its changes. -/
theorem run_runInput_of_ok
    (hData : decodeBytes world.input "stdin" = .ok text) :
    let document := (session.processed "stdin" text).document
    (runInput session : Task InMemory RunResult).run.run
        world =
      (.ok (session.verdict document),
        world.hear
          (if isPreview session.settings then
            session.shown document
          else
            document.rewritten)
          document.notice) := by
  intro document
  have hThere : document.outcome ≠ .skippedMissing :=
    Transform.outcome_ne_skippedMissing
  have hDone : ∀ after : World,
      (do
        session.summarize (m := InMemory)
          (session.processed "stdin" text).stats
          (Tally.record {} document.outcome) 0
        return {
          dryRun := session.settings.dryRun
          wouldChange := document.wouldChange
          incomplete := document.outcome.isFailure } :
        Task InMemory RunResult).run.run after =
      (.ok (session.verdict document), after) := by
    intro after
    rw [Session.summarize_of_quiet hQuiet]
    rfl
  unfold runInput
  rw [Task.run_bind, Session.run_loadInput hQuiet, hData]
  dsimp only [Except.map]
  rw [Task.run_bind, Task.run_lift,
    Session.run_report hQuiet hThere]
  dsimp only
  split
  · rw [Task.run_bind, Task.run_lift,
      Session.run_present hQuiet, World.hear_hear,
      List.nil_append, String.append_empty]
    exact hDone _
  · rw [Task.run_bind, Task.run_lift,
      InMemory.run_output, World.hear_hear,
      List.nil_append, String.append_empty]
    exact hDone _

end Input

end Program

------------------------------------------------------------
-- Files
------------------------------------------------------------

namespace Batch

/- A batch fails over contents if its one file does. -/
theorem exists_failure?_fail
    {failure : Failure}
    (hKind : failure.kind = .content)
    (path : Path) :
    ∃ summary,
      (({} : Batch).fail path failure).failure? =
          some summary ∧
        summary.kind = .content := by
  unfold failure? fail
  simp [hKind, Failure.content]

section Single

variable {path : Path}
variable {data : List UInt8}
variable (hQuiet : session.Quiet)

include hQuiet in
/- A batch of one file is one step. -/
theorem run_single
    (path : Path)
    (world : World) :
    (run session [path] : Task InMemory RunResult).run.run
        world =
      let stepped :=
        (step session {} path : InMemory Batch).run world
      (stepped.1.result session.settings.dryRun,
        stepped.2) := by
  rw [run_of_quiet hQuiet, List.foldlM_cons]
  rfl

variable
  (hBytes :
    world.disk.bytes? world.directory path = some data)
variable (hSize : data.length ≤ Session.sizeLimit)
include hQuiet hBytes hSize

/- A file that holds no text is told of and left as it is. -/
theorem run_single_of_error
    {failure : Failure}
    (hData :
      decodeBytes data (Text.str path) = .error failure)
    (hKind : failure.kind = .content) :
    ∃ summary notice,
      (run session [path] :
          Task InMemory RunResult).run.run world =
        (.error summary, world.hear [] notice) ∧
        summary.kind = .content := by
  have hHandle :
      (handle session path : Task InMemory Processed).run.run
          world =
        (.error failure, world) := by
    unfold handle
    rw [Task.run_bind, Session.run_load hQuiet hBytes hSize,
      hData]
    rfl
  rcases exists_failure?_fail hKind path with
    ⟨summary, hSummary, hSummaryKind⟩
  refine ⟨summary,
    "Error processing " ++ Text.str path ++ ": " ++
      failure.chain ++ "\n", ?_, hSummaryKind⟩
  have hStep :
      (step session {} path : InMemory Batch).run world =
        (({} : Batch).fail path failure,
          world.hear []
            ("Error processing " ++ Text.str path ++ ": " ++
              failure.chain ++ "\n")) := by
    rw [World.hear_nil]
    unfold step
    rw [StateT.run_bind, hHandle]
    rfl
  rw [run_single hQuiet, hStep]
  unfold result
  dsimp only
  rw [hSummary]

/- A file that holds a text is shown and saved. -/
theorem run_single_of_ok
    (hBackup : session.settings.backup = false)
    (hData : decodeBytes data (Text.str path) = .ok text) :
    let document :=
      (session.processed (Text.str path) text).document
    ∃ location,
      world.disk.file? world.directory path =
          some location ∧
        (run session [path] :
            Task InMemory RunResult).run.run world =
          (.ok (session.verdict document),
            { world.hear (session.shown document)
                document.notice with
              disk :=
                if session.saves document then
                  world.disk.patch
                    (location,
                      Utf8.encode document.rewritten)
                else
                  world.disk }) := by
  intro document
  rcases Disk.exists_of_bytes? hBytes with
    ⟨location, content, hFile, -, -⟩
  have hThere : document.outcome ≠ .skippedMissing :=
    Transform.outcome_ne_skippedMissing
  refine ⟨location, hFile, ?_⟩
  have hHandle :
      (handle session path : Task InMemory Processed).run.run
          world =
        (.ok (session.processed (Text.str path) text),
          { world.hear (session.shown document)
              document.notice with
            disk :=
              if session.saves document then
                world.disk.patch
                  (location, Utf8.encode document.rewritten)
              else
                world.disk }) := by
    unfold handle
    rw [Task.run_bind, Session.run_load hQuiet hBytes hSize,
      hData]
    dsimp only [Except.map]
    rw [Task.run_bind,
      Session.run_emit_of_quiet hQuiet hBackup hThere hFile]
    rfl
  rw [run_single hQuiet]
  unfold step
  rw [StateT.run_bind, hHandle]
  rfl

end Single

end Batch

/-
  Outside of a preview, the file of a document holds its
  rewritten text in the end, whether it was saved or not.
-/
theorem Session.bytes?_saved
    {document : Document}
    {path : Path}
    {location : Location}
    (hDryRun : session.settings.dryRun = false)
    (hDiff : session.settings.diff = false)
    (hFile :
      world.disk.file? world.directory path = some location)
    (hBytes :
      world.disk.bytes? world.directory path =
        some (Utf8.encode document.before)) :
    (if session.saves document then
        world.disk.patch
          (location, Utf8.encode document.rewritten)
      else
        world.disk).bytes? world.directory path =
      some (Utf8.encode document.rewritten) := by
  have hSaves :
      session.saves document = document.wouldChange := by
    unfold saves
    rw [hDryRun, hDiff]
    rfl
  rw [hSaves]
  split
  · exact Disk.bytes?_patch hFile _
  · rename_i hSame
    have hText : document.before = document.rewritten := by
      simpa [Document.wouldChange] using hSame
    rw [← hText]
    exact hBytes

------------------------------------------------------------
-- Runs
------------------------------------------------------------

namespace Program

variable {options : Options}
variable {settings : Settings}

/- A run goes by some settings. -/
structure Opens
    (options : Options)
    (settings : Settings)
    (world : World) : Prop where
  check : options.check = .ok ()
  load :
    ((Settings.load options :
      Task InMemory Settings).run.run world).1 = .ok settings

/- Work that only looks at a system leaves it as it was. -/
theorem run_of_looks
    {α : Type}
    {task : Task InMemory α}
    (hLooks : Task.Keeps (.same id) task)
    {a : α}
    (hOk : (task.run.run world).1 = .ok a) :
    task.run.run world = (.ok a, world) :=
  Prod.ext hOk (hLooks world)

/- The session of a run in memory, without a terminal. -/
def sessionOf
    (settings : Settings) : Session :=
  { settings
    console :=
      { colored := settings.color == .always
        verbose := settings.verbose } }

theorem quiet_sessionOf
    (hPlain : settings.IsPlain) :
    (sessionOf settings).Quiet :=
  ⟨hPlain.verbose, hPlain.json⟩

theorem run_ofSettings
    (settings : Settings)
    (world : World) :
    (Console.ofSettings settings : InMemory Console).run
        world =
      ((sessionOf settings).console, world) := by
  unfold Console.ofSettings Console.hasColors sessionOf
  cases settings.color <;> rfl

/- A run with plain settings starts without a word. -/
theorem run_start
    (hPlain : settings.IsPlain)
    (hLoad :
      ((Settings.load options :
        Task InMemory Settings).run.run world).1 =
          .ok settings) :
    (start options : Task InMemory Session).run.run world =
      (.ok (sessionOf settings), world) := by
  have hRun := run_of_looks
    (Settings.keeps_load (InMemory.looking _) options) hLoad
  have hQuiet := quiet_sessionOf hPlain
  unfold start
  rw [Task.run_bind, hRun]
  dsimp only
  rw [Task.run_bind, Task.run_lift, run_ofSettings]
  dsimp only
  rw [forIn_of_silent fun rule _ => by
    rw [Console.say_of_quiet hQuiet.verbose]
    rfl]
  rfl

/- The one file that a run is about. -/
theorem run_resolve_single
    (hPlain : settings.IsPlain)
    {name : Path}
    (hNames :
      ((Inputs.names options : Task InMemory _).run.run
        world).1 = .ok [name]) :
    (Inputs.resolve options settings :
        Task InMemory Discovery).run.run world =
      (.ok
        { files :=
            [Inputs.anchor settings.baseDirectory name] },
        world) := by
  have hRun := run_of_looks
    (Inputs.keeps_names (InMemory.looking _) options) hNames
  unfold Inputs.resolve
  rw [Task.run_bind, hRun, hPlain.recursive]
  rfl

/- Where a file is named, the standard input is not read. -/
theorem hasInputs_of_names
    {name : Path}
    (hNames :
      ((Inputs.names options : Task InMemory _).run.run
        world).1 = .ok [name]) :
    options.hasInputs = true := by
  unfold Options.hasInputs
  unfold Inputs.names at hNames
  cases hList : options.filesFrom with
  | some list => exact Bool.or_true _
  | none =>
      rw [hList] at hNames
      rw [show options.inputs = [name] from
        Except.ok.inj hNames]
      rfl

namespace Opens

variable (hOpens : Opens options settings world)
variable (hPlain : settings.IsPlain)
include hOpens hPlain

/- What a run with plain settings does. -/
theorem run_eq :
    (run options : Task InMemory RunResult).run.run world =
      (if options.hasInputs then
        runFiles (sessionOf settings) options
      else
        runInput (sessionOf settings) :
        Task InMemory RunResult).run.run world := by
  unfold run
  rw [hOpens.check]
  dsimp only
  rw [Task.run_bind, run_start hPlain hOpens.load]

/- A run on one file is a batch of it. -/
theorem run_single
    {name : Path}
    (hNames :
      ((Inputs.names options : Task InMemory _).run.run
        world).1 = .ok [name]) :
    (run options : Task InMemory RunResult).run.run world =
      (Batch.run (sessionOf settings)
        [Inputs.anchor settings.baseDirectory name] :
        Task InMemory RunResult).run.run world := by
  rw [hOpens.run_eq hPlain,
    if_pos (hasInputs_of_names hNames)]
  unfold runFiles
  have hResolve := run_resolve_single hPlain hNames
  rw [Task.run_bind,
    show (sessionOf settings).settings = settings from rfl,
    hResolve]
  dsimp only
  rw [hPlain.watch]
  rfl

end Opens

/-
  A run on the standard input and a run on a file with the
  same bytes, with the same plain settings.  Both end with the
  same exit code.  If the first one succeeds outside of a
  preview, it prints what the file of the second one holds in
  the end.  A preview prints the same for both, and so is the
  notice that is given if they succeed, but for the name.
-/
theorem filter_agrees_with_file
    {byInput byFile : Options}
    {settings : Settings}
    {name : Path}
    {left right : World}
    (hPlain : settings.IsPlain)
    (hInput : Opens byInput settings left)
    (hFile : Opens byFile settings right)
    (hNone : byInput.hasInputs = false)
    (hNames :
      ((Inputs.names byFile : Task InMemory _).run.run
        right).1 = .ok [name])
    (hBytes :
      right.disk.bytes? right.directory
          (Inputs.anchor settings.baseDirectory name) =
        some left.input)
    (hSize : left.input.length ≤ Session.sizeLimit) :
    let path := Inputs.anchor settings.baseDirectory name
    let filtered :=
      (run byInput : Task InMemory RunResult).run.run left
    let rewritten :=
      (run byFile : Task InMemory RunResult).run.run right
    Batch.code filtered.1 = Batch.code rewritten.1 ∧
      (settings.dryRun = false → settings.diff = false →
        filtered.1.isOk = true →
          ∃ printed,
            filtered.2.output =
                left.output ++ Text.str printed ∧
              rewritten.2.disk.bytes? right.directory path =
                some (Utf8.encode printed)) ∧
        (settings.dryRun = true ∨ settings.diff = true →
          ∃ lines : Option Text,
            filtered.2.output =
                left.output ++ Text.str
                  (lines.elim []
                    (Diff.heading "stdin" settings.dryRun ++
                      ·)) ∧
              rewritten.2.output =
                right.output ++ Text.str
                  (lines.elim []
                    (Diff.heading (Text.str path)
                      settings.dryRun ++ ·))) ∧
          (filtered.1.isOk = true →
            ∃ words : Option String,
              filtered.2.complaints =
                  left.complaints ++
                    words.elim "" ("stdin" ++ ·) ∧
                rewritten.2.complaints =
                  right.complaints ++
                    words.elim "" (Text.str path ++ ·)) := by
  intro path filtered rewritten
  have hQuiet := quiet_sessionOf hPlain
  have hFiltered : filtered = _ := hInput.run_eq hPlain
  have hRewritten : rewritten = _ :=
    hFile.run_single hPlain hNames
  rw [hNone, if_neg Bool.false_ne_true] at hFiltered
  rcases decodeBytes_cases left.input with
    ⟨text, hText⟩ | hNoText
  · rcases Batch.run_single_of_ok hQuiet hBytes hSize
        hPlain.backup (hText _) with
      ⟨location, hLocation, hBatch⟩
    rw [run_runInput_of_ok hQuiet (hText _)] at hFiltered
    rw [hBatch] at hRewritten
    rw [hFiltered, hRewritten]
    refine ⟨rfl, fun hDryRun hDiff _ => ?_, fun hPreview => ?_,
      fun _ => ⟨_, rfl, rfl⟩⟩
    · have hPlainly :
          isPreview (sessionOf settings).settings = false := by
        dsimp only [isPreview, sessionOf]
        rw [hPlain.json, hDryRun, hDiff]
        rfl
      rw [hPlainly]
      refine ⟨_, rfl, ?_⟩
      rw [← encode_of_decodeBytes (hText "stdin")] at hBytes
      exact Session.bytes?_saved hDryRun hDiff hLocation hBytes
    · rcases Session.exists_shown_processed _ text with
        ⟨lines, hLines⟩
      have hPreview :
          isPreview (sessionOf settings).settings = true := by
        dsimp only [isPreview, sessionOf]
        rw [hPlain.json, Bool.false_or, Bool.or_eq_true]
        exact hPreview
      rw [hPreview]
      dsimp only [World.hear]
      rw [if_pos rfl, hLines, hLines]
      exact ⟨lines, rfl, rfl⟩
  · rcases hNoText "stdin" with
      ⟨failure, hError, hKind⟩
    rcases hNoText (Text.str path) with
      ⟨failure', hError', hKind'⟩
    rw [run_runInput_of_error hQuiet hError] at hFiltered
    rcases Batch.run_single_of_error hQuiet hBytes hSize hError'
        hKind' with
      ⟨summary, notice, hBatch, hSummary⟩
    rw [hBatch] at hRewritten
    rw [hFiltered, hRewritten]
    refine ⟨?_, fun _ _ hOk => ?_, fun _ => ⟨none, ?_, ?_⟩,
      fun hOk => ?_⟩
    · dsimp only [Batch.code]
      unfold Failure.exitCode
      rw [hKind, hSummary]
    · cases hOk
    · exact String.append_empty.symm
    · rw [World.hear_nil]
      exact String.append_empty.symm
    · cases hOk

/- A text without a wrapper, on the input and in a file. -/
theorem filter_agrees_with_file_unwrapped :
    let text := "void _generateQuestion() \x7b\n\x7d\n".toList
    let byInput : Options := { noSettings := true }
    let byFile : Options :=
      { inputs := ["a.dart".toList]
        noSettings := true }
    let left : World := { input := Utf8.encode text }
    let right : World :=
      { disk :=
          { nodes :=
              [(["a.dart".toList],
                .file (.bytes (Utf8.encode text)))] } }
    ∃ settings : Settings,
      settings.IsPlain ∧ Opens byInput settings left ∧
        Opens byFile settings right ∧
        settings.dryRun = false ∧ settings.diff = false ∧
        ((run byInput : Task InMemory RunResult).run.run
          left).1.isOk = true ∧
        ∃ printed,
          ((run byInput : Task InMemory RunResult).run.run
              left).2.output = Text.str printed ∧
            ((run byFile : Task InMemory RunResult).run.run
                right).2.disk.bytes? [] "a.dart".toList =
              some (Utf8.encode printed) := by
  intro text byInput byFile left right
  have hModes :
      ((Settings.load byInput :
          Task InMemory Settings).run.run
        left).1.toOption.map (fun settings =>
          [settings.watch, settings.recursive,
            settings.verbose, settings.json,
            settings.backup, settings.dryRun,
            settings.diff, settings.baseDirectory.isSome]) =
        some (List.replicate 8 false) := by
    decide +kernel
  rcases exists_of_toOption_map hModes with
    ⟨settings, hLoad, hSettings⟩
  simp only [List.replicate, List.cons.injEq, and_true,
    Option.isSome_eq_false_iff, Option.isNone_iff_eq_none]
    at hSettings
  rcases hSettings with
    ⟨hWatch, hRecursive, hVerbose, hJson, hBackup, hDryRun,
      hDiff, hBase⟩
  have hPlain : settings.IsPlain :=
    ⟨hWatch, hRecursive, hVerbose, hJson, hBackup⟩
  have hInput : Opens byInput settings left := ⟨rfl, hLoad⟩
  have hFile : Opens byFile settings right := ⟨rfl, hLoad⟩
  have hPath :
      Inputs.anchor settings.baseDirectory "a.dart".toList =
        "a.dart".toList := by
    rw [hBase]
    rfl
  have hOk :
      ((run byInput : Task InMemory RunResult).run.run
        left).1.isOk = true := by
    decide +kernel
  have hSize : left.input.length ≤ Session.sizeLimit := by
    decide +kernel
  have hBytes :
      right.disk.bytes? right.directory
          (Inputs.anchor settings.baseDirectory
            "a.dart".toList) =
        some left.input := by
    rw [hPath]
    decide +kernel
  rcases filter_agrees_with_file hPlain hInput hFile rfl rfl
      hBytes hSize with
    ⟨-, hPrinted, -⟩
  rcases hPrinted hDryRun hDiff hOk with
    ⟨printed, hOutput, hHolds⟩
  rw [hPath] at hHolds
  refine ⟨settings, hPlain, hInput, hFile, hDryRun, hDiff,
    hOk, printed, ?_, hHolds⟩
  exact hOutput.trans (String.empty_append)

end Program

end NotifyScope
