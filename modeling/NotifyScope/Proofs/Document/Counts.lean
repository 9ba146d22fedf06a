import NotifyScope.Proofs.Document.Outcome
import NotifyScope.Proofs.Rewrite.Settled

/-
  The edits that a rewrite counts.  They are those of every
  rule that completes its turn, and a conflict in a later
  turn takes back the edits but not their counts.  So a text
  with a conflict counts no edit exactly if the rules before
  it have nothing to do in the text.

  Main declarations:
    * `Transform.idle_run_iff`
    * `Document.idle_counts_iff`
-/

------------------------------------------------------------
-- Runs
------------------------------------------------------------

namespace NotifyScope

namespace Transform

/-
  A run counts no edit exactly if every rule that completes
  its turn has nothing to do in the lines of the run: one
  that has nothing to do leaves them for the next.
-/
theorem idle_run_iff
    {rules : List Rule}
    {layout : Layout}
    {lines : Lines} :
    (run rules layout lines).counts.Idle ↔
      ∀ turn ∈ turns layout rules lines,
        turn.Completes layout →
          turn.rule.AtRest layout lines := by
  have hTurn : ∀ turn : Turn,
      (turn.work layout).counts.Idle ↔
        turn.rule.AtRest layout turn.lines :=
    fun _ => Rule.idle_rewrite_iff
  have hKeeps : ∀ turn : Turn,
      turn.Completes layout →
        turn.rule.AtRest layout turn.lines →
          turn.Keeps layout :=
    fun _ _ hRest => Rule.lines_rewrite_of_atRest hRest
  refine
    (run_counts_iff (p := Counts.Idle)
      (fun _ _ => Counts.idle_add_iff)
      ⟨rfl, rfl, rfl, rfl, rfl, rfl⟩).trans ?_
  simp only [hTurn]
  exact forall_turns_iff
    (p := fun rule lines => rule.AtRest layout lines) hKeeps

end Transform

------------------------------------------------------------
-- Documents
------------------------------------------------------------

namespace Document

/-
  A rewrite fails with a nested declaration exactly if one of
  the rules does not complete its turn.  Whether it does or
  not, it counts no edit exactly if the rules that complete
  theirs have nothing to do in the text.
-/
theorem idle_counts_iff
    (rules : List Rule)
    (layout : Layout)
    (name : String)
    (text : Text) :
    let document := rewrite rules layout name text
    let turns :=
      Transform.turns layout rules (Text.lines text)
    (document.outcome = .failedNestedSignature ↔
        ∃ turn ∈ turns, ¬turn.Completes layout) ∧
      (document.counts.Idle ↔
        ∀ turn ∈ turns, turn.Completes layout →
          turn.rule.AtRest layout (Text.lines text)) := by
  intro document turns
  refine ⟨?_, Transform.idle_run_iff⟩
  have hOutcome : document.outcome = _ := outcome_rewrite
  rw [hOutcome,
    Transform.outcome_eq_failedNestedSignature_iff,
    Option.isSome_iff_ne_none, ne_eq,
    Transform.run_conflict_eq_none_iff]
  simp only [not_forall, exists_prop]
  rfl

/-
  A method gets its wrapper, its marker and its new name, the
  next rule meets a conflict, and the text stays as it is.
-/
theorem not_idle_of_failedNestedSignature :
    let layout : Layout :=
      { unit := "  ".toList, reindent := true }
    let other : Rule :=
      { Rule.standard with
        oldName := "_nextRound".toList
        newName := "nextRound".toList
        oldName_isName := by decide
        newName_isName := by decide }
    let text : Text :=
      ("void _generateQuestion() \x7b\n" ++
        "  a();\n" ++
        "\x7d\n" ++
        "void _nextRound() \x7b\n" ++
        "  void _nextRound() \x7b\n" ++
        "    b();\n" ++
        "  \x7d\n" ++
        "\x7d\n").toList
    let document :=
      rewrite [Rule.standard, other] layout "test.dart" text
    document.outcome = .failedNestedSignature ∧
      document.rewritten = text ∧
        ¬document.counts.Idle := by
  intro layout other text document
  have hFound :
      document.outcome = .failedNestedSignature ∧
        document.rewritten = text ∧
          document.counts.methodsWrapped = 1 := by
    decide +kernel
  refine ⟨hFound.1, hFound.2.1, fun hIdle => ?_⟩
  have hWrapped := hIdle.wrapped
  rw [hFound.2.2] at hWrapped
  cases hWrapped

end Document

end NotifyScope
