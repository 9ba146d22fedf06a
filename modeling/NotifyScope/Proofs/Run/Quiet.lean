import NotifyScope.Proofs.Document.Outcome
import NotifyScope.Proofs.Run.AnyOrder

/-
  Runs of a quiet console in memory.  Where nobody asks for
  more messages, all that a run does with a document can be
  read off: what is printed of it, what notice is given of
  it, and what is saved.

  Key definitions include:
    * `Session.Quiet`
    * `World.hear`
    * `Document.notice`
    * `Session.shown`

  Main declarations:
    * `Session.run_loadInput`
    * `Session.run_load`
    * `Session.run_emit_of_quiet`
    * `Batch.run_of_quiet`
-/

namespace NotifyScope

------------------------------------------------------------
-- Silence
------------------------------------------------------------

/- A loop whose steps do nothing does nothing. -/
theorem forIn_of_silent
    {m : Type → Type}
    [Monad m]
    [LawfulMonad m]
    {α : Type}
    {step : α → m Unit}
    {list : List α}
    (hStep : ∀ a ∈ list, step a = pure ()) :
    (forIn list PUnit.unit fun a _ => do
        step a
        pure (ForInStep.yield PUnit.unit)) =
      pure PUnit.unit := by
  induction list with
  | nil => rfl
  | cons a rest ih =>
      have hRest := ih fun other hOther =>
        hStep other (List.mem_cons_of_mem _ hOther)
      rw [List.forIn_cons, hStep a List.mem_cons_self,
        pure_bind, pure_bind]
      exact hRest

/- A quiet console says nothing. -/
theorem Console.say_of_quiet
    {m : Type → Type}
    [Monad m]
    [Host m]
    {console : Console}
    (hQuiet : console.verbose = false)
    (tone : Tone)
    (text : String) :
    (console.say tone text : m Unit) = pure () := by
  unfold say
  rw [hQuiet]
  rfl

/- Nobody asks for more messages or for a report. -/
structure Session.Quiet
    (session : Session) : Prop where
  verbose : session.console.verbose = false
  json : session.settings.json = false

/- The state after a text was printed and notice was given. -/
def World.hear
    (world : World)
    (text : Text)
    (notice : String) : World :=
  { world with
    output := world.output ++ Text.str text
    complaints := world.complaints ++ notice }

theorem World.hear_nil
    (world : World)
    (notice : String) :
    world.hear [] notice =
      { world with
        complaints := world.complaints ++ notice } := by
  unfold hear
  rw [show Text.str [] = "" from rfl, String.append_empty]

theorem World.hear_empty
    (world : World)
    (text : Text) :
    world.hear text "" =
      { world with
        output := world.output ++ Text.str text } := by
  unfold hear
  rw [String.append_empty]

theorem World.hear_nothing
    (world : World) :
    world.hear [] "" = world := by
  rw [hear_nil, String.append_empty]

/- A text that is printed is heard. -/
theorem InMemory.run_output
    (text : Text)
    (world : World) :
    (Host.output (Text.str text) : InMemory Unit).run world =
      ((), world.hear text "") := by
  rw [World.hear_empty]
  rfl

/- What is heard later is behind what was heard first. -/
theorem World.hear_hear
    (world : World)
    (first second : Text)
    (notice other : String) :
    (world.hear first notice).hear second other =
      world.hear (first ++ second) (notice ++ other) := by
  unfold hear Text.str
  simp only [String.ofList_append, String.append_assoc]

------------------------------------------------------------
-- Bytes
------------------------------------------------------------

theorem Content.size_eq
    (content : Content) :
    content.size = content.toBytes.length := by
  cases content with
  | bytes data => rfl
  | zeros count => exact List.length_replicate.symm

/- What a content is decoded to depends on its bytes. -/
theorem Content.decode_eq
    (content : Content)
    (label : String) :
    content.decode label =
      decodeBytes content.toBytes label := by
  cases content with
  | bytes data => rfl
  | zeros count =>
      cases count with
      | zero => rfl
      | succ count =>
          unfold decode decodeBytes
          rw [if_pos (by simp [toBytes, List.replicate_succ])]
          rfl

/- Whether bytes hold a text does not depend on their name. -/
theorem decodeBytes_cases
    (data : List UInt8) :
    (∃ text, ∀ label,
        decodeBytes data label = .ok text) ∨
      ∀ label, ∃ failure,
        decodeBytes data label = .error failure ∧
          failure.kind = .content := by
  unfold decodeBytes
  split
  · exact .inr fun label => ⟨_, rfl, rfl⟩
  · cases Utf8.decode data with
    | ok text => exact .inl ⟨text, fun label => rfl⟩
    | error position =>
        exact .inr fun label => ⟨_, rfl, rfl⟩

/- Bytes that hold a text are those that encode it. -/
theorem encode_of_decodeBytes
    {data : List UInt8}
    {label : String}
    {text : Text}
    (hText : decodeBytes data label = .ok text) :
    Utf8.encode text = data := by
  unfold decodeBytes at hText
  split at hText
  · cases hText
  · split at hText
    · rename_i hDecode
      cases hText
      exact Utf8.encode_of_decode hDecode
    · cases hText

/- Bytes that a path leads to are those of a file. -/
theorem Disk.exists_of_bytes?
    {disk : Disk}
    {base : Location}
    {path : Path}
    {data : List UInt8}
    (hBytes : disk.bytes? base path = some data) :
    ∃ location content,
      disk.file? base path = some location ∧
        disk.find base path = .ok (location, .file content) ∧
          content.toBytes = data := by
  cases hFile : disk.file? base path with
  | none =>
      rw [bytes?_of_file?_eq_none hFile] at hBytes
      cases hBytes
  | some location =>
      rcases find_of_file? hFile with
        ⟨content, hGet, hFind⟩
      rw [bytes?_of_get? hFile hGet] at hBytes
      exact ⟨location, content, rfl, hFind,
        Option.some.inj hBytes⟩

/- A file that is replaced holds the new bytes. -/
theorem Disk.bytes?_patch
    {disk : Disk}
    {base location : Location}
    {path : Path}
    (hFile : disk.file? base path = some location)
    (data : List UInt8) :
    (disk.patch (location, data)).bytes? base path =
      some data := by
  have hIsFile := (file?_eq_some_iff.mp hFile).2
  exact bytes?_of_get?
    ((file?_congr (shape_patch hIsFile)).trans hFile)
    (get?_patch_self hIsFile)

------------------------------------------------------------
-- Inputs
------------------------------------------------------------

variable {session : Session}
variable {world : World}

namespace Session

/- A text as it is rewritten while time stands still. -/
def processed
    (session : Session)
    (name : String)
    (text : Text) : Processed :=
  { document :=
      Document.rewrite session.settings.rules
        session.settings.layout name text }

variable (hQuiet : session.Quiet)
include hQuiet

theorem run_rewriteDecoded
    (name : String)
    (decoded : Except Failure Text)
    (world : World) :
    (session.rewriteDecoded name decoded :
        Task InMemory Processed).run.run world =
      (decoded.map (session.processed name), world) := by
  cases decoded with
  | error failure => rfl
  | ok text =>
      have hTrace :
          (forIn
            (Document.rewrite session.settings.rules
              session.settings.layout name text).trace
            PUnit.unit fun event _ => do
              session.console.say event.tone event.message
              pure (ForInStep.yield PUnit.unit) :
            InMemory PUnit) = pure PUnit.unit :=
        forIn_of_silent fun _ _ =>
          Console.say_of_quiet hQuiet.verbose _ _
      have hRewrite :
          (session.rewrite name text : InMemory _).run world =
            (session.processed name text, world) := by
        unfold rewrite
        dsimp only
        rw [hTrace]
        rfl
      refine (Task.run_lift _ world).trans ?_
      rw [hRewrite]
      rfl

/- What the standard input is made into. -/
theorem run_loadInput
    (world : World) :
    (session.loadInput : Task InMemory Processed).run.run
        world =
      ((decodeBytes world.input "stdin").map
        (session.processed "stdin"), world) := by
  have hInput :
      (Host.input : InMemory _).run world =
        (.ok world.input, world) :=
    rfl
  unfold loadInput
  rw [Task.run_bind, Host.run_attempt, hInput]
  exact run_rewriteDecoded hQuiet _ _ world

/- What a file within the limit is made into. -/
theorem run_load
    {path : Path}
    {data : List UInt8}
    (hBytes :
      world.disk.bytes? world.directory path = some data)
    (hSize : data.length ≤ sizeLimit) :
    (session.load path : Task InMemory Processed).run.run
        world =
      ((decodeBytes data (Text.str path)).map
        (session.processed (Text.str path)), world) := by
  rcases Disk.exists_of_bytes? hBytes with
    ⟨location, content, -, hFind, rfl⟩
  have hInfo :
      (Host.info path : InMemory _).run world =
        (.ok
          { isFile := true
            isDirectory := false
            size := content.size }, world) := by
    change (world.disk.info world.directory path, world) = _
    unfold Disk.info
    rw [hFind]
  have hRead :
      (Host.read path : InMemory _).run world =
        (.ok content, world) := by
    change (world.disk.read world.directory path, world) = _
    unfold Disk.read
    rw [hFind]
  rw [← content.size_eq] at hSize
  unfold load
  dsimp only
  rw [Task.run_bind, Task.run_lift, hInfo]
  dsimp only
  rw [if_neg (Nat.not_lt.mpr hSize), Task.run_bind,
    Host.run_attempt, hRead]
  dsimp only [Except.mapError]
  rw [content.decode_eq]
  exact run_rewriteDecoded hQuiet _ _ world

end Session

------------------------------------------------------------
-- Documents
------------------------------------------------------------

/-
  The words in which notice is given of a document that could
  not be rewritten as a whole.  No name is part of them.
-/
def Document.words
    (document : Document) : Option String :=
  if document.outcome.isFailure then
    some
      (": " ++ (document.outcome.label ++
        (": " ++ (document.detail.getD "" ++ "\n"))))
  else
    none

/- The notice that is given of a document under its name. -/
def Document.notice
    (document : Document) : String :=
  document.words.elim "" (document.name ++ ·)

/- The changes to a document, as they are printed. -/
def Document.changes
    (document : Document)
    (proposed : Bool) : Text :=
  if document.wouldChange then
    Diff.unified document.name proposed document.before
      document.rewritten
  else
    []

namespace Session

/- What is printed of a document beside its text. -/
def shown
    (session : Session)
    (document : Document) : Text :=
  if session.settings.diff then
    document.changes session.settings.dryRun
  else
    []

variable {document : Document}

theorem notice_of_failure
    (hFailure : document.outcome.isFailure = true) :
    document.notice =
      document.name ++ ": " ++ document.outcome.label ++
        ": " ++ document.detail.getD "" ++ "\n" := by
  unfold Document.notice Document.words
  rw [if_pos hFailure]
  simp only [Option.elim_some, String.append_assoc]

theorem notice_of_not_failure
    (hFailure : document.outcome.isFailure = false) :
    document.notice = "" := by
  unfold Document.notice Document.words
  rw [hFailure]
  rfl

variable (hQuiet : session.Quiet)
include hQuiet

/- Notice is given of a document that was rewritten. -/
theorem run_report
    (hThere : document.outcome ≠ .skippedMissing)
    (world : World) :
    (session.report document : InMemory Unit).run world =
      ((), world.hear [] document.notice) := by
  unfold report Document.outcomeReport
  rw [hQuiet.json, World.hear_nil]
  cases hCase : document.outcome with
  | skippedMissing => exact absurd hCase hThere
  | fixed | unchanged | skippedNoMatch =>
      rw [notice_of_not_failure (by rw [hCase]; rfl),
        String.append_empty]
      dsimp only [Console.tell]
      rw [Console.say_of_quiet hQuiet.verbose]
      rfl
  | failedUnbalancedBlock | failedNestedSignature =>
      rw [notice_of_failure (by rw [hCase]; rfl), hCase]
      rfl

omit hQuiet in
theorem run_showDiff
    (proposed : Bool)
    (document : Document)
    (world : World) :
    (showDiff proposed document : InMemory Unit).run world =
      ((), world.hear (document.changes proposed) "") := by
  unfold showDiff Document.changes
  split
  · exact InMemory.run_output _ world
  · rw [World.hear_nothing]
    rfl

/- Of a document, a diff is printed and nothing else. -/
theorem run_present
    (withContent : Bool)
    (document : Document)
    (world : World) :
    (session.present withContent document :
        InMemory Unit).run world =
      ((), world.hear (session.shown document) "") := by
  have hMessages :
      ∀ message ∈ document.dryRunReport,
        (session.console.tell message : InMemory Unit) =
          pure () := by
    unfold Document.dryRunReport
    split <;>
      simp [Console.tell, Console.say_of_quiet hQuiet.verbose]
  have hNothing :
      (pure () : InMemory Unit).run world =
        ((), world.hear [] "") := by
    rw [World.hear_nothing]
    rfl
  unfold present showDryRun shown
  rw [forIn_of_silent hMessages, hQuiet.json]
  cases session.settings.dryRun <;>
    cases session.settings.diff
  · exact hNothing
  · exact run_showDiff false document world
  · exact hNothing
  · exact run_showDiff true document world

/-
  A document is shown, and saved without a backup if it is to
  be saved.
-/
theorem run_emit_of_quiet
    (hBackup : session.settings.backup = false)
    (hThere : document.outcome ≠ .skippedMissing)
    {path : Path}
    {location : Location}
    (hFile :
      world.disk.file? world.directory path = some location) :
    (session.emit path document : Task InMemory Unit).run.run
        world =
      (.ok (),
        { world.hear (session.shown document)
            document.notice with
          disk :=
            if session.saves document then
              world.disk.patch
                (location, Utf8.encode document.rewritten)
            else
              world.disk }) := by
  unfold emit
  rw [Task.run_bind, Task.run_lift,
    run_report hQuiet hThere]
  dsimp only
  rw [Task.run_bind, Task.run_lift,
    run_present hQuiet, World.hear_hear, List.nil_append,
    String.append_empty]
  dsimp only
  split
  · have hHeard :
        (world.hear (session.shown document)
              document.notice).disk.file?
            (world.hear (session.shown document)
              document.notice).directory path =
          some location :=
      hFile
    exact run_store hBackup hHeard document
  · rfl

end Session

------------------------------------------------------------
-- Batches
------------------------------------------------------------

/- How a run of one document ends, if it does not fail. -/
def Session.verdict
    (session : Session)
    (document : Document) : RunResult :=
  { dryRun := session.settings.dryRun
    wouldChange := document.wouldChange
    incomplete := document.outcome.isFailure }

section Summaries

variable (hQuiet : session.Quiet)
include hQuiet

theorem Session.summarize_of_quiet
    (stats : Stats)
    (tally : Tally)
    (errors : Nat) :
    (session.summarize stats tally errors : InMemory Unit) =
      pure () := by
  unfold summarize
  rw [hQuiet.verbose]
  rfl

/- Nothing is said after the last file of a batch. -/
theorem Batch.run_of_quiet
    (paths : List Path)
    (world : World) :
    (run session paths : Task InMemory RunResult).run.run
        world =
      let stepped :=
        (paths.foldlM (step session) {} :
          InMemory Batch).run world
      (stepped.1.result session.settings.dryRun,
        stepped.2) := by
  unfold run
  rw [Task.run_bind, Task.run_lift]
  dsimp only
  rw [Session.summarize_of_quiet hQuiet]
  unfold result
  cases ((paths.foldlM (step session) {} :
      InMemory Batch).run world).1.failure? with
  | some failure => rfl
  | none => rfl

end Summaries

end NotifyScope
