import NotifyScope.Proofs.Rewrite.Turns
import NotifyScope.Proofs.Rule.Targets

/-
  The outcome tells whether a text may have changed.  A
  conflict takes back what every rule before it did, a text
  without a declaration stays as it is whatever references it
  holds, and such texts are the ones that are told to have
  none.

  Main declarations:
    * `Transform.run_finds_nothing_iff`
    * `Document.rewritten_of_failedNestedSignature`
    * `Document.rewritten_of_skippedNoMatch`
    * `Document.rewrite_changes_only_if_told`
-/

------------------------------------------------------------
-- Methods That Were Found
------------------------------------------------------------

namespace NotifyScope

/- The methods of two pieces of work together. -/
theorem Counts.add_methodsFound
    (left right : Counts) :
    (left + right).methodsFound =
      left.methodsFound + right.methodsFound := rfl

/- A method is not counted where it is rewritten. -/
theorem Method.methodsFound_rewrite
    (rule : Rule)
    (reindent : Bool)
    (method : Method)
    (lines : Lines) :
    (method.rewrite rule reindent
      lines).counts.methodsFound = 0 := by
  unfold rewrite rewriteBody
  cases method.bodyState rule lines <;> rfl

theorem Method.methodsFound_rewriteAll
    (rule : Rule)
    (reindent : Bool)
    (methods : List Method)
    (lines : Lines) :
    (rewriteAll rule reindent methods
      lines).counts.methodsFound = 0 := by
  induction methods with
  | nil => rfl
  | cons method methods ih =>
      have hStep :=
        method.methodsFound_rewrite rule reindent
          (rewriteAll rule reindent methods lines).lines
      have hSum := congrArg₂ (· + ·) ih hStep
      exact hSum

/- A rule counts the methods that it has found. -/
theorem Rule.methodsFound_rewrite
    (rule : Rule)
    (layout : Layout)
    (survey : Survey)
    (lines : Lines) :
    (rule.rewrite layout survey lines).counts.methodsFound =
      survey.methods.length := by
  unfold rewrite
  split
  · rename_i hEmpty
    rw [(Survey.isEmpty_iff.mp hEmpty).1]
    rfl
  · have hAll :=
      Method.methodsFound_rewriteAll rule layout.reindent
        survey.methods lines
    simp only [Counts.add_methodsFound, hAll, Nat.add_zero]

/- A rule that finds nothing keeps its lines. -/
theorem Turn.keeps_of_finds_nothing
    {layout : Layout}
    {turn : Turn}
    (hUnbalanced : (turn.survey layout).unbalanced = [])
    (hMethods : (turn.survey layout).methods = []) :
    turn.Keeps layout := by
  unfold Keeps work Rule.rewrite Survey.isEmpty
  rw [hUnbalanced, hMethods]
  rfl

------------------------------------------------------------
-- Outcomes
------------------------------------------------------------

namespace Transform

variable {changed : Bool}
variable {transform : Transform}

theorem outcome_eq_failedNestedSignature_iff :
    transform.outcome changed = .failedNestedSignature ↔
      transform.conflict.isSome = true := by
  unfold outcome
  split_ifs <;> simp_all

theorem outcome_eq_failedUnbalancedBlock_iff :
    transform.outcome changed = .failedUnbalancedBlock ↔
      transform.conflict = none ∧
        transform.unbalanced ≠ [] := by
  unfold outcome
  cases transform.conflict with
  | some conflict => simp
  | none => split_ifs <;> simp_all

theorem outcome_eq_skippedNoMatch_iff :
    transform.outcome changed = .skippedNoMatch ↔
      transform.conflict = none ∧
        transform.unbalanced = [] ∧
          transform.counts.methodsFound = 0 := by
  unfold outcome
  cases transform.conflict with
  | some conflict => simp
  | none => split_ifs <;> simp_all

/- A text that was changed is not told to be unchanged. -/
theorem outcome_ne_unchanged :
    transform.outcome true ≠ .unchanged := by
  unfold outcome
  simp only [if_true]
  split_ifs <;> decide

/- A run is never about a file that does not exist. -/
theorem outcome_ne_skippedMissing :
    transform.outcome changed ≠ .skippedMissing := by
  unfold outcome
  split_ifs <;> decide

/- A run finds methods where one of its turns does. -/
theorem run_methodsFound_eq_zero_iff
    {rules : List Rule}
    {layout : Layout}
    {lines : Lines} :
    (run rules layout lines).counts.methodsFound = 0 ↔
      ∀ turn ∈ turns layout rules lines,
        turn.Completes layout →
          (turn.survey layout).methods = [] := by
  have hAdd : ∀ left right : Counts,
      (left + right).methodsFound = 0 ↔
        left.methodsFound = 0 ∧ right.methodsFound = 0 := by
    intro left right
    rw [Counts.add_methodsFound, Nat.add_eq_zero_iff]
  refine
    (run_counts_iff
      (p := fun counts => counts.methodsFound = 0)
      hAdd rfl).trans ?_
  simp only [Turn.work, Rule.methodsFound_rewrite,
    List.length_eq_zero_iff]

/-
  A run finds nothing exactly if no rule targets any of the
  lines that it starts with: a rule that finds nothing leaves
  the lines for the next one as they are.
-/
theorem run_finds_nothing_iff
    {rules : List Rule}
    {layout : Layout}
    {lines : Lines} :
    ((run rules layout lines).conflict = none ∧
        (run rules layout lines).unbalanced = [] ∧
          (run rules layout lines).counts.methodsFound =
            0) ↔
      ∀ rule ∈ rules, ∀ line ∈ lines,
        ¬rule.Targets line := by
  have hKeeps : ∀ turn : Turn,
      (∀ line ∈ turn.lines, ¬turn.rule.Targets line) →
        turn.Completes layout ∧ turn.Keeps layout := by
    intro turn hNone
    rcases Rule.survey_finds_nothing_iff.mpr hNone with
      ⟨hConflict, hUnbalanced, hMethods⟩
    exact ⟨hConflict,
      Turn.keeps_of_finds_nothing hUnbalanced hMethods⟩
  rw [run_conflict_eq_none_iff,
    run_methodsFound_eq_zero_iff,
    List.eq_nil_iff_forall_not_mem]
  refine Iff.trans ?_
    (forall_turns_iff_forall_rules
      (p := fun rule lines =>
        ∀ line ∈ lines, ¬rule.Targets line)
      hKeeps)
  simp only [mem_run_unbalanced_iff]
  constructor
  · rintro ⟨hCompletes, hUnbalanced, hMethods⟩ turn hTurn
    have hTurnCompletes := hCompletes turn hTurn
    apply Rule.survey_finds_nothing_iff.mp
    refine ⟨hTurnCompletes, ?_,
      hMethods turn hTurn hTurnCompletes⟩
    rw [List.eq_nil_iff_forall_not_mem]
    exact fun i hMem =>
      hUnbalanced i ⟨turn, hTurn, hTurnCompletes, hMem⟩
  · intro hNone
    have hFinds :
        ∀ turn ∈ turns layout rules lines,
          (turn.survey layout).conflict = none ∧
            (turn.survey layout).unbalanced = [] ∧
              (turn.survey layout).methods = [] :=
      fun turn hTurn =>
        Rule.survey_finds_nothing_iff.mpr (hNone turn hTurn)
    refine ⟨fun turn hTurn => (hFinds turn hTurn).1, ?_,
      fun turn hTurn _ => (hFinds turn hTurn).2.2⟩
    rintro i ⟨turn, hTurn, _, hMem⟩
    rw [(hFinds turn hTurn).2.1] at hMem
    cases hMem

end Transform

------------------------------------------------------------
-- Documents
------------------------------------------------------------

namespace Document

variable {rules : List Rule}
variable {layout : Layout}
variable {name : String}
variable {text : Text}

/- The outcome of a rewrite is the one of its run. -/
theorem outcome_rewrite :
    (rewrite rules layout name text).outcome =
      (Transform.run rules layout
        (Text.lines text)).outcome
          (decide
            ((rewrite rules layout name text).rewritten ≠
              text)) := rfl

/- A text keeps its characters where the lines are kept. -/
theorem rewritten_of_lines_eq
    (hLines :
      (Transform.run rules layout (Text.lines text)).lines =
        Text.lines text) :
    (rewrite rules layout name text).rewritten = text := by
  have hSource :
      (Source.ofText text).lines = Text.lines text := rfl
  unfold rewrite
  simp only [hSource]
  rw [if_pos hLines]

/- A text that is told to have no declaration has none. -/
theorem outcome_eq_skippedNoMatch_iff :
    (rewrite rules layout name text).outcome =
        .skippedNoMatch ↔
      ∀ rule ∈ rules, ∀ line ∈ Text.lines text,
        ¬rule.Targets line := by
  rw [outcome_rewrite,
    Transform.outcome_eq_skippedNoMatch_iff,
    Transform.run_finds_nothing_iff]

/- So it stays as it is, whatever references it holds. -/
theorem rewritten_of_skippedNoMatch
    (hOutcome :
      (rewrite rules layout name text).outcome =
        .skippedNoMatch) :
    (rewrite rules layout name text).rewritten = text := by
  rw [outcome_rewrite,
    Transform.outcome_eq_skippedNoMatch_iff] at hOutcome
  rcases hOutcome with ⟨_, hUnbalanced, hFound⟩
  apply rewritten_of_lines_eq
  apply Transform.run_lines_of_keeps
  intro turn hTurn hCompletes
  apply Turn.keeps_of_finds_nothing
  · rw [List.eq_nil_iff_forall_not_mem] at hUnbalanced ⊢
    intro i hMem
    apply hUnbalanced i
    rw [Transform.mem_run_unbalanced_iff]
    exact ⟨turn, hTurn, hCompletes, hMem⟩
  · exact Transform.run_methodsFound_eq_zero_iff.mp hFound
      turn hTurn hCompletes

/- A conflict takes back what the rules before it did. -/
theorem rewritten_of_failedNestedSignature
    (hOutcome :
      (rewrite rules layout name text).outcome =
        .failedNestedSignature) :
    (rewrite rules layout name text).rewritten = text := by
  rw [outcome_rewrite,
    Transform.outcome_eq_failedNestedSignature_iff]
    at hOutcome
  exact rewritten_of_lines_eq
    (Transform.run_lines_of_conflict hOutcome)

/- A text that is told to be unchanged is. -/
theorem rewritten_of_unchanged
    (hOutcome :
      (rewrite rules layout name text).outcome =
        .unchanged) :
    (rewrite rules layout name text).rewritten = text := by
  by_contra hNe
  rw [outcome_rewrite, decide_eq_true hNe] at hOutcome
  exact Transform.outcome_ne_unchanged hOutcome

/-
  A rewrite changes a text only if it tells that it did, or
  that it did so in part.  It tells that the text declares
  nothing exactly if no rule targets a line of it.
-/
theorem rewrite_changes_only_if_told
    (rules : List Rule)
    (layout : Layout)
    (name : String)
    (text : Text) :
    let document := rewrite rules layout name text
    (document.rewritten ≠ text →
        document.outcome = .fixed ∨
          document.outcome = .failedUnbalancedBlock) ∧
      (document.outcome = .unchanged ∨
          document.outcome = .skippedNoMatch ∨
            document.outcome = .failedNestedSignature →
        document.rewritten = text) ∧
      (document.outcome = .skippedNoMatch ↔
        ∀ line ∈ Text.lines text, ∀ rule ∈ rules,
          ¬rule.Targets line) := by
  intro document
  have hKept :
      document.outcome = .unchanged ∨
          document.outcome = .skippedNoMatch ∨
            document.outcome = .failedNestedSignature →
        document.rewritten = text := by
    rintro (hOutcome | hOutcome | hOutcome)
    · exact rewritten_of_unchanged hOutcome
    · exact rewritten_of_skippedNoMatch hOutcome
    · exact rewritten_of_failedNestedSignature hOutcome
  refine ⟨?_, hKept, ?_⟩
  · intro hNe
    cases hOutcome : document.outcome with
    | fixed => exact .inl rfl
    | failedUnbalancedBlock => exact .inr rfl
    | skippedMissing =>
        exact absurd hOutcome Transform.outcome_ne_skippedMissing
    | unchanged => exact absurd (hKept (by simp [hOutcome])) hNe
    | skippedNoMatch =>
        exact absurd (hKept (by simp [hOutcome])) hNe
    | failedNestedSignature =>
        exact absurd (hKept (by simp [hOutcome])) hNe
  · rw [outcome_eq_skippedNoMatch_iff]
    exact ⟨fun hNone line hLine rule hRule =>
        hNone rule hRule line hLine,
      fun hNone rule hRule line hLine =>
        hNone line hLine rule hRule⟩

end Document

end NotifyScope
