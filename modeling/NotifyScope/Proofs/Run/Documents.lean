import NotifyScope.Proofs.Host.Printing
import NotifyScope.Proofs.Report.Json
import NotifyScope.Proofs.Run.Running

/-
  What a run prints for programs.  Unless the console shows
  more than what concerns everyone, it is one JSON document
  for each input that was handled, in their order.

  Key definitions include:
    * `Session.Accounts`
    * `Batch.log`
    * `Program.log`

  Main declarations:
    * `Batch.printed_handle`
    * `Batch.printed_steps`
    * `Program.printed_runFiles`
-/

namespace NotifyScope

/- What became of the inputs, with their names. -/
abbrev Log := List (String × Except Failure Processed)

namespace Session

/-
  A text that has one JSON document for each input that was
  handled, on lines of their own and in their order, and at
  most one for each that failed.
-/
inductive Accounts
    (session : Session)
    (withContent : Bool) : Log → Text → Prop where
  | nil : session.Accounts withContent [] []
  | handled
      {processed : Processed}
      {log : Log}
      {written text : Text}
      (hWritten :
        (processed.document.json session.settings.dryRun
          withContent).Denotes written)
      (hText : session.Accounts withContent log text) :
      session.Accounts withContent
        ((processed.document.name, .ok processed) :: log)
        (written ++ '\n' :: text)
  | silent
      {name : String}
      {failure : Failure}
      {log : Log}
      {text : Text}
      (hText : session.Accounts withContent log text) :
      session.Accounts withContent
        ((name, .error failure) :: log) text
  | failed
      {failure : Failure}
      {document : Document}
      {log : Log}
      {written text : Text}
      (hWritten :
        (document.json session.settings.dryRun
          withContent).Denotes written)
      (hText : session.Accounts withContent log text) :
      session.Accounts withContent
        ((document.name, .error failure) :: log)
        (written ++ '\n' :: text)

/- What two logs account for is put together. -/
theorem Accounts.append
    {session : Session}
    {withContent : Bool}
    {left right : Log}
    {first second : Text}
    (hLeft : session.Accounts withContent left first)
    (hRight : session.Accounts withContent right second) :
    session.Accounts withContent (left ++ right)
      (first ++ second) := by
  induction hLeft with
  | nil => exact hRight
  | handled hWritten hText ih =>
      rw [List.append_assoc]
      exact .handled hWritten ih
  | silent hText ih => exact .silent ih
  | failed hWritten hText ih =>
      rw [List.append_assoc]
      exact .failed hWritten ih

/- What accounts for a log is nothing or starts an object. -/
theorem Accounts.head?_eq
    {session : Session}
    {withContent : Bool}
    {log : Log}
    {text : Text}
    (hAccounts : session.Accounts withContent log text) :
    ∀ c ∈ text.head?, c = '\x7b' := by
  induction hAccounts with
  | nil => exact fun _ hMem => absurd hMem (Option.not_mem_none _)
  | silent hText ih => exact ih
  | handled hWritten hText ih =>
      cases hWritten with
      | object hInside =>
          rintro c ⟨⟩
          rfl
  | failed hWritten hText ih =>
      cases hWritten with
      | object hInside =>
          rintro c ⟨⟩
          rfl

end Session

variable {σ : Type}
variable [Host (StateM σ)]
variable {printed : σ → Text}
variable {session : Session}

------------------------------------------------------------
-- Names
------------------------------------------------------------

/- A document bears the name of what was rewritten. -/
theorem Session.yields_rewriteDecoded
    (session : Session)
    (name : String)
    (decoded : Except Failure Text) :
    Task.Yields (fun processed => processed.document.name = name)
      (session.rewriteDecoded name decoded :
        Task (StateM σ) Processed) := by
  intro state processed hOk
  cases decoded with
  | error failure => cases hOk
  | ok text =>
      cases hOk
      rfl

theorem Session.yields_load
    (session : Session)
    (path : Path) :
    Task.Yields
      (fun processed =>
        processed.document.name = Text.str path)
      (session.load path : Task (StateM σ) Processed) := by
  refine (Task.yields_something _).bind fun info _ => ?_
  split
  · intro state processed hOk
    cases hOk
    rfl
  · intro state processed hOk
    cases hOk
  · split
    · intro state processed hOk
      cases hOk
    · refine (Task.yields_something _).bind fun content _ => ?_
      exact session.yields_rewriteDecoded _ _

theorem Session.yields_loadInput
    (session : Session) :
    Task.Yields
      (fun processed => processed.document.name = "stdin")
      (session.loadInput : Task (StateM σ) Processed) := by
  refine (Task.yields_something _).bind fun data _ => ?_
  exact session.yields_rewriteDecoded _ _

------------------------------------------------------------
-- Documents
------------------------------------------------------------

/- A quiet console prints nothing on its own accord. -/
theorem Console.talking_of_quiet
    (hPrint : Host.Printing printed)
    {console : Console}
    (hQuiet : console.verbose = false) :
    console.Talking (.same printed) where
  output hVerbose :=
    absurd hVerbose (by rw [hQuiet]; decide)
  complain := hPrint.complain

section Quiet

variable (hPrint : Host.Printing printed)
variable (hQuiet : session.console.verbose = false)
variable (hJson : session.settings.json = true)

namespace Session

/- A document as it is printed. -/
def jsonText
    (session : Session)
    (withContent : Bool)
    (document : Document) : Text :=
  (document.json session.settings.dryRun withContent).render 0

include hPrint hJson in
theorem printed_present
    (withContent : Bool)
    (document : Document)
    (state : σ) :
    printed
        ((session.present withContent document :
          StateM σ Unit).run state).2 =
      printed state ++
        (session.jsonText withContent document ++ ['\n']) := by
  unfold present
  rw [if_pos hJson]
  unfold showJson Host.outputLine Text.str
  rw [hPrint.output, String.toList_append,
    String.toList_ofList]
  rfl

include hPrint hQuiet hJson in
/- A document is printed, whether it is saved or not. -/
theorem printed_emit
    (path : Path)
    (document : Document)
    (state : σ) :
    printed
        ((session.emit path document :
          Task (StateM σ) Unit).run.run state).2 =
      printed state ++
        (session.jsonText false document ++ ['\n']) := by
  have hTell := Console.talking_of_quiet hPrint hQuiet
  have hStore :
      Task.Keeps (.same printed)
        (if session.saves document then
          session.store path document
        else
          pure () : Task (StateM σ) Unit) := by
    split
    · exact keeps_store hTell hPrint.saving path document
    · exact Task.keeps_pure _
  unfold emit
  rw [Task.run_bind, Task.run_lift]
  dsimp only
  rw [Task.run_bind, Task.run_lift]
  dsimp only
  rw [hStore _, printed_present hPrint hJson,
    keeps_report hTell document state]

end Session

namespace Batch

include hPrint hQuiet hJson in
/- Handling a file prints its document, unless it fails. -/
theorem printed_handle
    (path : Path)
    (state : σ) :
    let after :=
      (handle session path :
        Task (StateM σ) Processed).run.run state
    ∃ written,
      printed after.2 = printed state ++ written ∧
        session.Accounts false [(Text.str path, after.1)]
          written := by
  have hLoad :=
    Session.keeps_load hPrint.looking
      (Console.talking_of_quiet hPrint hQuiet) path state
  have hName := session.yields_load path state
  unfold handle
  rw [Task.run_bind]
  generalize
    (session.load path : Task (StateM σ) Processed).run.run
      state = loaded at hLoad hName ⊢
  rcases loaded with ⟨result, loaded⟩
  cases result with
  | error failure =>
      exact ⟨[], hLoad.trans (List.append_nil _).symm,
        .silent .nil⟩
  | ok processed =>
      have hEmit :=
        Session.printed_emit hPrint hQuiet hJson path
          processed.document loaded
      have hWritten :
          (processed.document.json session.settings.dryRun
            false).Denotes
              (session.jsonText false processed.document) :=
        JsonValue.denotes_render 0 _
      dsimp only at hLoad hEmit ⊢
      rw [Task.run_bind, ← hName processed rfl]
      rw [hLoad] at hEmit
      generalize
        (session.emit path processed.document :
          Task (StateM σ) Unit).run.run loaded = emitted
            at hEmit ⊢
      rcases emitted with ⟨result, emitted⟩
      cases result with
      | error failure =>
          exact ⟨_, hEmit, .failed hWritten .nil⟩
      | ok shown =>
          exact ⟨_, hEmit, .handled hWritten .nil⟩

/- What becomes of files that are handled one by one. -/
def log
    (session : Session) :
    List Path → σ → Log
  | [], _ => []
  | path :: rest, state =>
      let handled :=
        (handle session path :
          Task (StateM σ) Processed).run.run state
      let next :=
        (step session {} path : StateM σ Batch).run state
      (Text.str path, handled.1) :: log session rest next.2

/- The batch so far does not matter for what happens next. -/
theorem state_step
    (session : Session)
    (batch : Batch)
    (path : Path)
    (state : σ) :
    ((step session batch path : StateM σ Batch).run
        state).2 =
      ((step session {} path : StateM σ Batch).run
        state).2 := by
  unfold step
  rw [StateT.run_bind, StateT.run_bind]
  generalize
    (handle session path : Task (StateM σ) Processed).run.run
      state = handled
  rcases handled with ⟨result, handled⟩
  cases result <;> rfl

include hPrint in
/- One more file prints what handling it prints. -/
theorem printed_step
    (batch : Batch)
    (path : Path)
    (state : σ) :
    printed
        ((step session batch path : StateM σ Batch).run
          state).2 =
      printed
        ((handle session path :
          Task (StateM σ) Processed).run.run state).2 := by
  unfold step
  rw [StateT.run_bind]
  generalize
    (handle session path : Task (StateM σ) Processed).run.run
      state = handled
  rcases handled with ⟨result, handled⟩
  cases result with
  | ok processed => rfl
  | error failure => exact hPrint.complain _ handled

include hPrint hQuiet hJson in
/- Handling files one by one prints what accounts for them. -/
theorem printed_steps
    (paths : List Path)
    (batch : Batch)
    (state : σ) :
    ∃ text,
      session.Accounts false (log session paths state) text ∧
        printed
            ((paths.foldlM (step session) batch :
              StateM σ Batch).run state).2 =
          printed state ++ text := by
  induction paths generalizing batch state with
  | nil => exact ⟨[], .nil, (List.append_nil _).symm⟩
  | cons path rest ih =>
      obtain ⟨written, hWritten, hAccounts⟩ :=
        printed_handle hPrint hQuiet hJson path state
      obtain ⟨text, hRest, hText⟩ :=
        ih ((step session batch path :
            StateM σ Batch).run state).1
          ((step session {} path :
            StateM σ Batch).run state).2
      refine ⟨written ++ text, hAccounts.append hRest, ?_⟩
      rw [List.foldlM_cons, StateT.run_bind]
      rw [← state_step session batch] at hText
      refine hText.trans ?_
      rw [printed_step hPrint, hWritten, List.append_assoc]

include hPrint hQuiet hJson in
/- A batch prints what accounts for its files. -/
theorem printed_run
    (paths : List Path)
    (state : σ) :
    ∃ text,
      session.Accounts false (log session paths state) text ∧
        printed
            ((run session paths :
              Task (StateM σ) RunResult).run.run state).2 =
          printed state ++ text := by
  obtain ⟨text, hAccounts, hText⟩ :=
    printed_steps hPrint hQuiet hJson paths {} state
  refine ⟨text, hAccounts, ?_⟩
  have hTell := Console.talking_of_quiet hPrint hQuiet
  unfold run
  rw [Task.run_bind, Task.run_lift]
  refine Eq.trans ?_ hText
  -- Behind the files there is nothing but the summary.
  refine Task.Keeps.bind
    (Task.Keeps.lift
      (Session.keeps_summarize hTell _ _ _)) (fun _ => ?_) _
  cases Batch.failure? _ with
  | some failure => exact Task.keeps_throw _
  | none => exact Task.keeps_pure _

end Batch

------------------------------------------------------------
-- Programs
------------------------------------------------------------

namespace Program

/- Find the files of a run, and tell what went wrong. -/
def foundFiles
    {m : Type → Type}
    [Monad m]
    [Host m]
    (session : Session)
    (options : Options) : Task m (List Path) := do
  let found ← Inputs.resolve options session.settings
  for complaint in found.complaints do
    session.console.say (m := m) .dim
      ("Warning: " ++ complaint)
  pure found.files

/- What a run does with the files that were found. -/
def runFound
    {m : Type → Type}
    [Monad m]
    [Host m]
    (session : Session)
    (files : List Path) : Task m RunResult := do
  if session.settings.watch then
    Watch.run session files
  else if files.isEmpty then
    warnNothing (m := m) session
    return { dryRun := session.settings.dryRun }
  else
    Batch.run session files

/- A run finds the files first. -/
theorem runFiles_eq
    (session : Session)
    (options : Options) :
    (runFiles session options :
        Task (StateM σ) RunResult) =
      foundFiles session options >>= runFound session := by
  unfold runFiles foundFiles
  rw [bind_assoc]
  refine bind_congr fun found => ?_
  rw [bind_assoc]
  rfl

/- What becomes of the inputs of a run. -/
def log
    (session : Session)
    (options : Options)
    (state : σ) : Log :=
  if options.hasInputs then
    match (foundFiles session options :
        Task (StateM σ) (List Path)).run.run state with
    | (.error _, _) => []
    | (.ok files, next) => Batch.log session files next
  else
    [("stdin",
      ((session.loadInput :
        Task (StateM σ) Processed).run.run state).1)]

include hPrint hQuiet hJson in
/- The standard input is shown with its text. -/
theorem printed_runInput
    (state : σ) :
    ∃ text,
      session.Accounts true
          [("stdin",
            ((session.loadInput :
              Task (StateM σ) Processed).run.run state).1)]
          text ∧
        printed
            ((runInput session :
              Task (StateM σ) RunResult).run.run state).2 =
          printed state ++ text := by
  have hTell := Console.talking_of_quiet hPrint hQuiet
  have hLoad :=
    Session.keeps_loadInput hPrint.looking hTell state
  have hName := session.yields_loadInput state
  have hPreview : isPreview session.settings = true := by
    unfold isPreview
    rw [hJson]
    rfl
  unfold runInput
  rw [Task.run_bind]
  generalize
    (session.loadInput : Task (StateM σ) Processed).run.run
      state = loaded at hLoad hName ⊢
  rcases loaded with ⟨result, loaded⟩
  cases result with
  | error failure =>
      exact ⟨[], .silent .nil,
        hLoad.trans (List.append_nil _).symm⟩
  | ok processed =>
      have hReport :=
        Session.keeps_report hTell processed.document loaded
      have hWritten :
          (processed.document.json session.settings.dryRun
            true).Denotes
              (session.jsonText true processed.document) :=
        JsonValue.denotes_render 0 _
      refine ⟨_, by
        rw [← hName processed rfl]
        exact .handled hWritten .nil, ?_⟩
      dsimp only
      rw [Task.run_bind, Task.run_lift]
      dsimp only
      rw [if_pos hPreview, Task.run_bind, Task.run_lift]
      dsimp only
      rw [Task.run_bind, Task.run_lift]
      refine (Session.keeps_summarize hTell _ _ _ _).trans ?_
      rw [Session.printed_present hPrint hJson, hReport, hLoad]

include hPrint hQuiet hJson in
/- A run on files prints what accounts for them. -/
theorem printed_runFiles
    (hWatch : session.settings.watch = false)
    (options : Options)
    (state : σ) :
    ∃ text,
      session.Accounts false
          (match (foundFiles session options :
              Task (StateM σ) (List Path)).run.run state with
            | (.error _, _) => []
            | (.ok files, next) =>
                Batch.log session files next)
          text ∧
        printed
            ((runFiles session options :
              Task (StateM σ) RunResult).run.run state).2 =
          printed state ++ text := by
  have hTell := Console.talking_of_quiet hPrint hQuiet
  have hFound :
      Task.Keeps (.same printed)
        (foundFiles session options :
          Task (StateM σ) (List Path)) := by
    refine
      (Inputs.keeps_resolve hPrint.looking options _).bind
        fun found => ?_
    refine Task.Keeps.bind ?_ fun _ => Task.keeps_pure _
    refine Task.Keeps.forIn (fun complaint => ?_) _
    exact Task.Keeps.lift (Console.keeps_say hTell _ _)
  have hSame := hFound state
  rw [runFiles_eq, Task.run_bind]
  generalize
    (foundFiles session options :
      Task (StateM σ) (List Path)).run.run state = found
        at hSame ⊢
  rcases found with ⟨result, found⟩
  cases result with
  | error failure =>
      exact ⟨[], .nil, hSame.trans (List.append_nil _).symm⟩
  | ok files =>
      dsimp only at hSame ⊢
      unfold runFound
      rw [hWatch, if_neg Bool.false_ne_true]
      cases files with
      | nil =>
          refine ⟨[], .nil, ?_⟩
          rw [List.append_nil]
          refine Eq.trans ?_ hSame
          exact keeps_warnNothing hTell _
      | cons path rest =>
          obtain ⟨text, hAccounts, hText⟩ :=
            Batch.printed_run hPrint hQuiet hJson
              (path :: rest) found
          rw [hSame] at hText
          exact ⟨text, hAccounts, hText⟩

end Program

end Quiet

end NotifyScope
