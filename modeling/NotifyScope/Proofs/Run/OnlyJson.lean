import NotifyScope.Proofs.Run.Documents

/-
  Runs whose output is for programs.  The command line does
  not take a report for programs together with messages for
  those who want to know more, but a settings file can ask
  for either of them.  The output is JSON and nothing else if
  and only if nobody asks for such messages.

  Key definitions include:
    * `Program.Starts`
    * `Program.PrintsOnlyJson`

  Main declarations:
    * `Console.exists_printed_say`
    * `Program.exists_starts_of_load`
    * `Program.prints_only_json_iff`
-/

namespace NotifyScope

------------------------------------------------------------
-- Markup
------------------------------------------------------------

namespace Tone

/- Whether a text starts with markup, resolved or not. -/
def IsMarked
    (text : Text) : Prop :=
  text.head? = some '[' ∨ text.head? = some '\x1b'

theorem isMarked_resolveTag
    {text : Text}
    (tag attributes : String)
    (hText : IsMarked text) :
    IsMarked (resolveTag tag attributes text) := by
  cases text with
  | nil =>
      rcases hText with hText | hText <;> cases hText
  | cons c rest =>
      unfold resolveTag Text.replaceFrom
      split
      · right
        unfold escape
        rw [String.toList_append, String.toList_append]
        rfl
      · exact hText

/- What was marked up still starts in this way. -/
theorem isMarked_resolve
    {text : String}
    (hText : IsMarked text.toList) :
    IsMarked (resolve text).toList := by
  unfold resolve Text.str
  rw [String.toList_ofList]
  have hTones : ∀ (tones : List Tone) {text : Text},
      IsMarked text →
        IsMarked
          (tones.foldl
            (fun text tone =>
              resolveTag tone.tag tone.attributes text)
            text) := by
    intro tones
    induction tones with
    | nil => exact id
    | cons tone rest ih =>
        intro text hText
        exact ih (isMarked_resolveTag _ _ hText)
  exact hTones all (isMarked_resolveTag _ _ hText)

end Tone

/- A rule is described in words, never by an object. -/
theorem Rule.head?_describe
    (rule : Rule) :
    rule.describe.toList.head? = some 'R' := by
  unfold describe
  simp only [String.toList_append]
  rfl

variable {σ : Type}
variable [Host (StateM σ)]
variable {printed : σ → Text}

namespace Console

/- What a console shows about a rule is no object. -/
theorem exists_head?_shown
    (colored : Bool)
    (rule : Rule) :
    ∃ c ≠ '\x7b',
      (if colored then
        Tone.resolve (Tone.paint colored .dim rule.describe)
      else
        Tone.paint colored .dim rule.describe).toList.head? =
          some c := by
  cases colored with
  | false => exact ⟨'R', by decide, rule.head?_describe⟩
  | true =>
      have hMarked :
          Tone.IsMarked
            (Tone.paint true .dim rule.describe).toList := by
        left
        unfold Tone.paint
        simp only [if_true, String.toList_append]
        rfl
      rcases Tone.isMarked_resolve hMarked with hHead | hHead
      · exact ⟨'[', by decide, hHead⟩
      · exact ⟨'\x1b', by decide, hHead⟩

/- A rule is told in a line that is no object. -/
theorem exists_printed_say
    (hPrint : Host.Printing printed)
    {console : Console}
    (hVerbose : console.verbose = true)
    (rule : Rule)
    (state : σ) :
    ∃ c ≠ '\x7b', ∃ rest,
      printed
          ((console.say .dim rule.describe :
            StateM σ Unit).run state).2 =
        printed state ++ c :: rest := by
  obtain ⟨c, hNe, hHead⟩ :=
    exists_head?_shown console.colored rule
  obtain ⟨rest, hShown⟩ := List.head?_eq_some_iff.mp hHead
  refine ⟨c, hNe, rest ++ ['\n'], ?_⟩
  unfold say Console.line Host.outputLine
  rw [if_pos hVerbose, hPrint.output, String.toList_append,
    hShown]
  rfl

end Console

namespace Program

variable {options : Options}
variable {settings : Settings}

------------------------------------------------------------
-- Starts
------------------------------------------------------------

/- Tell which rules there are. -/
def tellRules
    {m : Type → Type}
    [Monad m]
    [Host m]
    (console : Console)
    (rules : List Rule) : Task m PUnit :=
  forIn rules PUnit.unit fun rule _ => do
    console.say (m := m) .dim rule.describe
    pure (ForInStep.yield PUnit.unit)

theorem keeps_tellRules
    {frame : Frame σ}
    {console : Console}
    (hTalk : console.Talking frame)
    (rules : List Rule) :
    Task.Keeps frame
      (tellRules console rules : Task (StateM σ) PUnit) := by
  unfold tellRules
  refine Task.Keeps.forIn (fun rule => ?_) rules
  exact Task.Keeps.lift (Console.keeps_say hTalk _ _)

/- Telling rules cannot fail. -/
theorem exists_tellRules
    (console : Console)
    (rules : List Rule)
    (state : σ) :
    ∃ after,
      (tellRules console rules :
        Task (StateM σ) PUnit).run.run state =
          (.ok PUnit.unit, after) := by
  induction rules generalizing state with
  | nil => exact ⟨state, rfl⟩
  | cons rule rest ih =>
      unfold tellRules at ih ⊢
      rw [List.forIn_cons, bind_assoc, Task.run_bind]
      exact ih _

/- The console of a run shows what its settings ask for. -/
theorem verbose_ofSettings
    (settings : Settings)
    (state : σ) :
    ((Console.ofSettings settings :
        StateM σ Console).run state).1.verbose =
      settings.verbose :=
  rfl

/-
  A run that has its settings.  Nothing is printed until it
  is opened, and it is ready once the rules are told.
-/
structure Starts
    (printed : σ → Text)
    (options : Options)
    (session : Session)
    (state opened ready : σ) : Prop where
  verbose : session.console.verbose = session.settings.verbose
  rules_ne_nil : session.settings.rules ≠ []
  silent : printed opened = printed state
  told :
    (tellRules session.console session.settings.rules :
        Task (StateM σ) PUnit).run.run opened =
      (.ok PUnit.unit, ready)
  started :
    (start options : Task (StateM σ) Session).run.run state =
      (.ok session, ready)

/- A run whose settings can be loaded starts with them. -/
theorem exists_starts_of_load
    (hPrint : Host.Printing printed)
    {state : σ}
    (hLoad :
      ((Settings.load options :
        Task (StateM σ) Settings).run.run state).1 =
          .ok settings) :
    ∃ session opened ready,
      session.settings = settings ∧
        Starts printed options session state opened ready := by
  obtain ⟨file, hMerge⟩ :=
    Settings.yields_load options state settings hLoad
  have hSame :=
    Settings.keeps_load hPrint.looking options state
  have hStart :
      (start options : Task (StateM σ) Session) =
        Settings.load options >>= fun settings =>
          liftM (Console.ofSettings settings : StateM σ Console) >>=
            fun console =>
              tellRules console settings.rules >>= fun _ =>
                pure { settings, console } := by
    rfl
  rcases hRun :
      (Settings.load options :
        Task (StateM σ) Settings).run.run state with
    ⟨result, loaded⟩
  rw [hRun] at hLoad hSame
  dsimp only at hLoad
  subst hLoad
  have hColors :=
    Console.keeps_ofSettings hPrint.looking settings loaded
  have hVerbose := verbose_ofSettings settings loaded
  rcases hOpen :
      (Console.ofSettings settings : StateM σ Console).run
        loaded with
    ⟨console, opened⟩
  rw [hOpen] at hColors hVerbose
  obtain ⟨ready, hReady⟩ :=
    exists_tellRules console settings.rules opened
  refine ⟨{ settings, console }, opened, ready, rfl,
    { verbose := hVerbose
      rules_ne_nil := Settings.rules_ne_nil_of_merge hMerge
      silent := Eq.trans hColors hSame
      told := hReady
      started := ?_ }⟩
  rw [hStart, Task.run_bind, hRun]
  dsimp only
  rw [Task.run_bind, Task.run_lift, hOpen]
  dsimp only
  rw [Task.run_bind, hReady]
  rfl

------------------------------------------------------------
-- Runs
------------------------------------------------------------

/-
  Whether what was printed is one JSON document for each of
  the inputs that was handled, and nothing else.
-/
def PrintsOnlyJson
    (session : Session)
    (options : Options)
    (ready : σ)
    (before after : Text) : Prop :=
  ∃ text,
    session.Accounts (!options.hasInputs)
        (log session options ready) text ∧
      after = before ++ text

/- Rules that are told leave a line that is no object. -/
theorem exists_told_rules
    (hPrint : Host.Printing printed)
    {console : Console}
    (hVerbose : console.verbose = true)
    {rules : List Rule}
    (hRules : rules ≠ [])
    (state : σ) :
    ∃ c ≠ '\x7b',
      printed state ++ [c] <+:
        printed
          ((tellRules console rules :
            Task (StateM σ) PUnit).run.run state).2 := by
  cases rules with
  | nil => exact absurd rfl hRules
  | cons rule rest =>
      obtain ⟨c, hNe, behind, hPrinted⟩ :=
        Console.exists_printed_say hPrint hVerbose rule state
      have hFirst :
          printed state ++ [c] <+:
            printed
              ((console.say .dim rule.describe :
                StateM σ Unit).run state).2 := by
        rw [hPrinted]
        exact ⟨behind, by simp⟩
      have hRest :=
        keeps_tellRules (hPrint.talking.on console) rest
      refine ⟨c, hNe, ?_⟩
      unfold tellRules at hRest ⊢
      rw [List.forIn_cons, bind_assoc, Task.run_bind]
      exact hFirst.trans (hRest _)

namespace Starts

variable {session : Session}
variable {state opened ready : σ}
variable
  (hStarts :
    Starts printed options session state opened ready)
variable (hPrint : Host.Printing printed)
variable (hCheck : options.check = .ok ())
variable (hWatch : session.settings.watch = false)
include hStarts hCheck

/- What a run does once it has a session. -/
theorem run_eq :
    (run options : Task (StateM σ) RunResult).run.run state =
      (if options.hasInputs then
        runFiles session options
      else
        runInput session :
        Task (StateM σ) RunResult).run.run ready := by
  unfold run
  rw [hCheck]
  dsimp only
  rw [Task.run_bind, hStarts.started]

include hPrint hWatch

/- A run that keeps quiet prints only JSON. -/
theorem prints_only_json
    (hQuiet : session.settings.verbose = false)
    (hJson : session.settings.json = true) :
    PrintsOnlyJson session options ready (printed state)
      (printed
        ((run options :
          Task (StateM σ) RunResult).run.run state).2) := by
  have hConsole : session.console.verbose = false :=
    hStarts.verbose.trans hQuiet
  have hSilent :=
    keeps_tellRules
      (Console.talking_of_quiet hPrint hConsole)
      session.settings.rules opened
  rw [hStarts.told] at hSilent
  have hSame : printed ready = printed state :=
    Eq.trans hSilent hStarts.silent
  rw [hStarts.run_eq hCheck, ← hSame]
  unfold PrintsOnlyJson log
  cases hInputs : options.hasInputs with
  | true =>
      exact printed_runFiles hPrint hConsole hJson hWatch
        options ready
  | false =>
      exact printed_runInput hPrint hConsole hJson ready

/- A run that tells its rules prints something else. -/
theorem not_prints_only_json
    (hVerbose : session.settings.verbose = true) :
    ¬PrintsOnlyJson session options ready (printed state)
      (printed
        ((run options :
          Task (StateM σ) RunResult).run.run state).2) := by
  rintro ⟨text, hAccounts, hText⟩
  obtain ⟨c, hNe, hTold⟩ :=
    exists_told_rules hPrint
      (hStarts.verbose.trans hVerbose)
      hStarts.rules_ne_nil opened
  rw [hStarts.told, hStarts.silent] at hTold
  have hStays :
      printed ready <+:
        printed
          ((run options :
            Task (StateM σ) RunResult).run.run state).2 := by
    rw [hStarts.run_eq hCheck]
    split
    · exact keeps_runFiles hPrint.looking_grows hPrint.talking
        (fun _ _ => hPrint.saving_grows) hWatch options ready
    · exact keeps_runInput hPrint.looking_grows hPrint.talking
        session ready
  have hPrefix := hTold.trans hStays
  rw [hText] at hPrefix
  obtain ⟨rest, hRest⟩ :=
    (List.prefix_append_right_inj _).mp hPrefix
  refine hNe (hAccounts.head?_eq c ?_)
  rw [← hRest]
  rfl

end Starts

/-
  On every system, a run with a report for programs prints one
  JSON document for each input that it handles, and nothing
  else, if and only if nobody asks for more messages.
-/
theorem prints_only_json_iff
    (hPrint : Host.Printing printed)
    {state : σ}
    (hCheck : options.check = .ok ())
    (hLoad :
      ((Settings.load options :
        Task (StateM σ) Settings).run.run state).1 =
          .ok settings)
    (hJson : settings.json = true)
    (hWatch : settings.watch = false) :
    ∃ session ready,
      (start options : Task (StateM σ) Session).run.run
          state = (.ok session, ready) ∧
        session.settings = settings ∧
          (PrintsOnlyJson session options ready
              (printed state)
              (printed
                ((run options :
                  Task (StateM σ) RunResult).run.run
                    state).2) ↔
            settings.verbose = false) := by
  obtain ⟨session, opened, ready, rfl, hStarts⟩ :=
    exists_starts_of_load hPrint hLoad
  refine ⟨session, ready, hStarts.started, rfl, ?_, ?_⟩
  · rw [← Bool.not_eq_true]
    intro hOnly hVerbose
    exact hStarts.not_prints_only_json hPrint hCheck hWatch
      hVerbose hOnly
  · intro hQuiet
    exact hStarts.prints_only_json hPrint hCheck hWatch
      hQuiet hJson

/-
  The settings file asks for a report, on a file that fails
  and on one that changes.
-/
theorem prints_only_json_iff_unfit_first :
    let options : Options :=
      { inputs := ["b.dart".toList, "a.dart".toList] }
    let text := "void _generateQuestion() \x7b\n\x7d\n".toList
    let world : World :=
      { disk :=
          { nodes :=
              [([".scopewraprc".toList],
                  .file
                    (.bytes
                      (Utf8.encode "json = true\n".toList))),
                (["a.dart".toList],
                  .file (.bytes (Utf8.encode text))),
                (["b.dart".toList], .file (.bytes [0]))] } }
    ∃ settings session, ∃ ready : World,
      options.check = .ok () ∧
        ((Settings.load options :
          Task InMemory Settings).run.run world).1 =
            .ok settings ∧
          settings.json = true ∧
            settings.watch = false ∧
              session.settings = settings ∧
                PrintsOnlyJson session options ready
                  world.output.toList
                  ((run options :
                    Task (StateM World) RunResult).run.run
                      world).2.output.toList := by
  intro options text world
  have hModes :
      ((Settings.load options :
          Task InMemory Settings).run.run
        world).1.toOption.map (fun settings =>
          (settings.json, settings.watch,
            settings.verbose)) =
        some (true, false, false) := by
    decide +kernel
  obtain ⟨settings, hLoad, hSettings⟩ :=
    exists_of_toOption_map hModes
  obtain ⟨hJson, hRest⟩ := Prod.ext_iff.mp hSettings
  obtain ⟨hWatch, hVerbose⟩ := Prod.ext_iff.mp hRest
  obtain ⟨session, ready, -, hSession, hOnly⟩ :=
    prints_only_json_iff InMemory.printing
      (rfl : options.check = .ok ()) hLoad hJson hWatch
  exact ⟨settings, session, ready, rfl, hLoad, hJson,
    hWatch, hSession, hOnly.mpr hVerbose⟩

/-
  The command line asks for a report, and the settings file
  for messages.
-/
theorem not_prints_only_json_verbose :
    let options : Options := { json := true }
    let world : World :=
      { disk :=
          { nodes :=
              [([".scopewraprc".toList],
                .file
                  (.bytes
                    (Utf8.encode
                      "verbose = true\n".toList)))] }
        input := Utf8.encode "x\n".toList }
    Options.parse ["--json".toList] = .ok options ∧
      ∃ settings session, ∃ ready : World,
        ((Settings.load options :
          Task (StateM World) Settings).run.run world).1 =
            .ok settings ∧
          settings.json = true ∧
            (start options :
                Task (StateM World) Session).run.run world =
              (.ok session, ready) ∧
              ¬PrintsOnlyJson session options ready
                world.output.toList
                ((run options :
                  Task (StateM World) RunResult).run.run
                    world).2.output.toList := by
  intro options world
  have hModes :
      ((Settings.load options :
          Task InMemory Settings).run.run
        world).1.toOption.map (fun settings =>
          (settings.json, settings.watch,
            settings.verbose)) =
        some (true, false, true) := by
    decide +kernel
  obtain ⟨settings, hLoad, hSettings⟩ :=
    exists_of_toOption_map hModes
  obtain ⟨hJson, hRest⟩ := Prod.ext_iff.mp hSettings
  obtain ⟨hWatch, hVerbose⟩ := Prod.ext_iff.mp hRest
  obtain ⟨session, opened, ready, rfl, hStarts⟩ :=
    exists_starts_of_load InMemory.printing hLoad
  exact ⟨by rfl, session.settings, session, ready,
    hLoad, hJson, hStarts.started,
    hStarts.not_prints_only_json InMemory.printing
      (rfl : options.check = .ok ()) hWatch hVerbose⟩

end Program

end NotifyScope
