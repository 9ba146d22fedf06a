import NotifyScope.Rewrite.Document

/-
  A run takes the rules in turn.  Each finds the lines that
  the rules before it have left, and the first one that meets
  a conflict ends the run.  What a run reports, counts and
  gives back is told by its turns.

  Key definitions include:
    * `Turn`
    * `Transform.turns`
    * `Transform.Follows`
    * `Transform.Stops`

  Main declarations:
    * `Transform.turn_induction`
    * `Transform.run_lines_invariant`
    * `Transform.run_conflict_eq_some_iff`
    * `Transform.run_lines_of_conflict`
    * `Transform.mem_run_unbalanced_iff`
    * `Transform.run_counts_iff`
    * `Transform.forall_turns_iff`
    * `Transform.forall_turns_iff_forall_rules`
-/

------------------------------------------------------------
-- Turns
------------------------------------------------------------

namespace NotifyScope

/- A rule with the lines that it finds in its turn. -/
structure Turn where
  rule : Rule
  lines : Lines

namespace Turn

/- What the rule finds in the lines. -/
def survey
    (layout : Layout)
    (turn : Turn) : Survey :=
  turn.rule.survey layout turn.lines

/- What the rule makes of the lines. -/
def work
    (layout : Layout)
    (turn : Turn) : Work :=
  turn.rule.rewrite layout (turn.survey layout) turn.lines

/- Whether no conflict ends the run in this turn. -/
def Completes
    (layout : Layout)
    (turn : Turn) : Prop :=
  (turn.survey layout).conflict = none

/- Whether the rule leaves the lines as they are. -/
def Keeps
    (layout : Layout)
    (turn : Turn) : Prop :=
  (turn.work layout).lines = turn.lines

end Turn

namespace Transform

/-
  The turns of a run: every rule with the lines that the
  rules before it leave, up to the first conflict.
-/
def turns
    (layout : Layout) :
    List Rule → Lines → List Turn
  | [], _ => []
  | rule :: rest, lines =>
      let turn : Turn := { rule, lines }
      turn ::
        match (turn.survey layout).conflict with
        | some _ => []
        | none =>
            turns layout rest (turn.work layout).lines

/- What comes of a turn that is completed. -/
structure Follows
    (layout : Layout)
    (turn : Turn)
    (state next : Transform) : Prop where
  completes : turn.Completes layout
  found : turn.lines = state.lines
  lines : next.lines = (turn.work layout).lines
  counts :
    next.counts = state.counts + (turn.work layout).counts
  unbalanced :
    next.unbalanced =
      state.unbalanced ++ (turn.survey layout).unbalanced
  conflict : next.conflict = none

/- What comes of a turn with a conflict. -/
structure Stops
    (layout : Layout)
    (before : Lines)
    (turn : Turn)
    (state result : Transform) : Prop where
  conflict :
    result.conflict = (turn.survey layout).conflict
  isSome : (turn.survey layout).conflict.isSome = true
  found : turn.lines = state.lines
  lines : result.lines = before
  counts : result.counts = state.counts
  unbalanced : result.unbalanced = state.unbalanced

variable {layout : Layout}
variable {rules : List Rule}
variable {lines : Lines}

/- A turn with a conflict is not completed. -/
theorem Stops.not_completes
    {before : Lines}
    {turn : Turn}
    {state result : Transform}
    (hStops : Stops layout before turn state result) :
    ¬turn.Completes layout := by
  unfold Turn.Completes
  rw [← Option.not_isSome_iff_eq_none]
  exact not_not_intro hStops.isSome

/-
  What holds at the end of a run holds there with every turn
  before it: a turn either ends the run with its conflict, or
  hands its lines on to the next one.
-/
theorem turn_induction
    (layout : Layout)
    (before : Lines)
    {motive :
      List Turn → Transform → Transform → Prop}
    (nil : ∀ state, motive [] state state)
    (stop : ∀ turn state result,
      Stops layout before turn state result →
      motive [turn] state result)
    (next : ∀ turn later state next result,
      Follows layout turn state next →
      motive later next result →
      motive (turn :: later) state result)
    (rules : List Rule)
    (state : Transform) :
    motive (turns layout rules state.lines) state
      (applyRules layout before rules state) := by
  induction rules generalizing state with
  | nil => exact nil state
  | cons rule rest ih =>
      rw [turns, applyRules]
      simp only [Turn.survey]
      cases hConflict :
          (rule.survey layout state.lines).conflict with
      | some conflict =>
          apply stop
          exact
            { conflict := hConflict.symm
              isSome := Option.isSome_iff_exists.mpr
                ⟨conflict, hConflict⟩
              found := rfl
              lines := rfl
              counts := rfl
              unbalanced := rfl }
      | none =>
          let turn : Turn := { rule, lines := state.lines }
          let after : Transform :=
            { lines := (turn.work layout).lines
              counts :=
                state.counts + (turn.work layout).counts
              unbalanced :=
                state.unbalanced ++
                  (turn.survey layout).unbalanced
              conflict := none
              trace :=
                state.trace ++
                  .rule rule.oldName rule.newName ::
                    (turn.work layout).trace }
          have hFollows : Follows layout turn state after :=
            { completes := hConflict
              found := rfl
              lines := rfl
              counts := rfl
              unbalanced := rfl
              conflict := rfl }
          exact next turn _ state after _ hFollows (ih after)

/- A turn belongs to one of the rules. -/
theorem rule_mem_of_mem_turns
    {turn : Turn}
    (hTurn : turn ∈ turns layout rules lines) :
    turn.rule ∈ rules := by
  induction rules generalizing lines with
  | nil => cases hTurn
  | cons rule rest ih =>
      rw [turns] at hTurn
      rcases List.mem_cons.mp hTurn with rfl | hLater
      · exact List.mem_cons_self
      · apply List.mem_cons_of_mem
        split at hLater
        · cases hLater
        · exact ih hLater

------------------------------------------------------------
-- Invariants
------------------------------------------------------------

/- What every rule keeps holds of the lines of a run. -/
theorem run_lines_invariant
    (invariant : Lines → Prop)
    (hRules : ∀ rule ∈ rules, ∀ lines, invariant lines →
      invariant
        (rule.rewrite layout (rule.survey layout lines)
          lines).lines)
    (hLines : invariant lines) :
    invariant (run rules layout lines).lines := by
  refine turn_induction layout lines
    (motive := fun all state result =>
      (∀ turn ∈ all, turn.rule ∈ rules) →
        invariant state.lines → invariant result.lines)
    ?_ ?_ ?_ rules _
    (fun _ hTurn => rule_mem_of_mem_turns hTurn) hLines
  · intro _ _ hState
    exact hState
  · intro _ _ _ hStops _ _
    rw [hStops.lines]
    exact hLines
  · intro turn later state next result hFollows ih hAll
      hState
    apply ih fun other hOther =>
      hAll other (List.mem_cons_of_mem _ hOther)
    rw [hFollows.lines]
    apply hRules turn.rule (hAll turn List.mem_cons_self)
    rw [hFollows.found]
    exact hState

------------------------------------------------------------
-- Conflicts
------------------------------------------------------------

/- The conflict of a run is the one that a turn meets. -/
theorem run_conflict_eq_some_iff
    {conflict : LocateError} :
    (run rules layout lines).conflict = some conflict ↔
      ∃ turn ∈ turns layout rules lines,
        (turn.survey layout).conflict = some conflict := by
  refine turn_induction layout lines
    (motive := fun all state result =>
      state.conflict = none →
        (result.conflict = some conflict ↔
          ∃ turn ∈ all,
            (turn.survey layout).conflict = some conflict))
    ?_ ?_ ?_ rules _ rfl
  · intro state hNone
    simp [hNone]
  · intro turn state result hStops _
    simp [hStops.conflict]
  · intro turn later state next result hFollows ih _
    have hCompletes := hFollows.completes
    unfold Turn.Completes at hCompletes
    rw [ih hFollows.conflict]
    simp [hCompletes]

/- A run without a conflict completes every turn. -/
theorem run_conflict_eq_none_iff :
    (run rules layout lines).conflict = none ↔
      ∀ turn ∈ turns layout rules lines,
        turn.Completes layout := by
  simp only [Turn.Completes,
    Option.eq_none_iff_forall_ne_some, ne_eq,
    run_conflict_eq_some_iff, not_exists, not_and]
  exact ⟨fun hNone turn hTurn conflict =>
      hNone conflict turn hTurn,
    fun hNone conflict turn hTurn =>
      hNone turn hTurn conflict⟩

/- A conflict gives the lines back that there were before. -/
theorem run_lines_of_conflict
    (hConflict :
      (run rules layout lines).conflict.isSome = true) :
    (run rules layout lines).lines = lines := by
  refine turn_induction layout lines
    (motive := fun _ state result =>
      state.conflict = none →
        result.conflict.isSome = true →
          result.lines = lines)
    ?_ ?_ ?_ rules _ rfl hConflict
  · intro state hNone hSome
    rw [hNone] at hSome
    cases hSome
  · intro turn state result hStops _ _
    exact hStops.lines
  · intro turn later state next result hFollows ih _
    exact ih hFollows.conflict

------------------------------------------------------------
-- Reports
------------------------------------------------------------

/- The unbalanced lines of a run are those of its turns. -/
theorem mem_run_unbalanced_iff
    (i : Nat) :
    i ∈ (run rules layout lines).unbalanced ↔
      ∃ turn ∈ turns layout rules lines,
        turn.Completes layout ∧
          i ∈ (turn.survey layout).unbalanced := by
  refine Iff.trans
    (turn_induction layout lines
      (motive := fun all state result =>
        i ∈ result.unbalanced ↔
          i ∈ state.unbalanced ∨
            ∃ turn ∈ all, turn.Completes layout ∧
              i ∈ (turn.survey layout).unbalanced)
      ?_ ?_ ?_ rules _)
    ?_
  · intro state
    simp
  · intro turn state result hStops
    simp [hStops.unbalanced, hStops.not_completes]
  · intro turn later state next result hFollows ih
    rw [ih, hFollows.unbalanced, List.mem_append, or_assoc]
    simp [hFollows.completes]
  · simp

------------------------------------------------------------
-- Counts
------------------------------------------------------------

/-
  What holds of a sum of counts exactly if it holds of both
  parts holds of a run exactly if it holds of every turn that
  the run completes.
-/
theorem run_counts_iff
    {p : Counts → Prop}
    (hAdd : ∀ left right, p (left + right) ↔
      p left ∧ p right)
    (hLines : p { totalLines := lines.length }) :
    p (run rules layout lines).counts ↔
      ∀ turn ∈ turns layout rules lines,
        turn.Completes layout →
          p (turn.work layout).counts := by
  refine Iff.trans
    (turn_induction layout lines
      (motive := fun all state result =>
        p result.counts ↔
          p state.counts ∧
            ∀ turn ∈ all, turn.Completes layout →
              p (turn.work layout).counts)
      ?_ ?_ ?_ rules _)
    (and_iff_right hLines)
  · intro state
    simp
  · intro turn state result hStops
    simp [hStops.counts, hStops.not_completes]
  · intro turn later state next result hFollows ih
    rw [ih, hFollows.counts, hAdd, and_assoc]
    simp [hFollows.completes]

------------------------------------------------------------
-- Lines
------------------------------------------------------------

/- Turns that keep their lines leave the lines of the run. -/
theorem run_lines_of_keeps
    (hKeeps : ∀ turn ∈ turns layout rules lines,
      turn.Completes layout → turn.Keeps layout) :
    (run rules layout lines).lines = lines := by
  refine turn_induction layout lines
    (motive := fun all state result =>
      state.lines = lines →
        (∀ turn ∈ all, turn.Completes layout →
          turn.Keeps layout) →
          result.lines = lines)
    ?_ ?_ ?_ rules _ rfl hKeeps
  · intro state hState _
    exact hState
  · intro turn state result hStops _ _
    exact hStops.lines
  · intro turn later state next result hFollows ih hState
      hAll
    have hFirst :=
      hAll turn List.mem_cons_self hFollows.completes
    unfold Turn.Keeps at hFirst
    apply ih
    · rw [hFollows.lines, hFirst, hFollows.found]
      exact hState
    · exact fun other hOther =>
        hAll other (List.mem_cons_of_mem _ hOther)

/-
  If a rule keeps the lines that it has some property of,
  then all rules have it of the lines they find in their turn
  exactly if they have it of those the run starts with.
-/
theorem forall_turns_iff
    {p : Rule → Lines → Prop}
    (hKeeps : ∀ turn : Turn,
      turn.Completes layout → p turn.rule turn.lines →
        turn.Keeps layout) :
    (∀ turn ∈ turns layout rules lines,
        turn.Completes layout → p turn.rule turn.lines) ↔
      ∀ turn ∈ turns layout rules lines,
        turn.Completes layout → p turn.rule lines := by
  induction rules with
  | nil => simp [turns]
  | cons rule rest ih =>
      let first : Turn := { rule, lines }
      rw [turns, List.forall_mem_cons, List.forall_mem_cons]
      apply and_congr_right
      intro hFirst
      cases hConflict : (first.survey layout).conflict with
      | some conflict => simp
      | none =>
          have hKept := hKeeps first hConflict
            (hFirst hConflict)
          unfold Turn.Keeps at hKept
          simp only
          rw [hKept]
          exact ih

/-
  If a rule completes its turn on lines that it has some
  property of, and keeps them, then all rules have it in
  their turn exactly if all have it at the start.
-/
theorem forall_turns_iff_forall_rules
    {p : Rule → Lines → Prop}
    (hKeeps : ∀ turn : Turn, p turn.rule turn.lines →
      turn.Completes layout ∧ turn.Keeps layout) :
    (∀ turn ∈ turns layout rules lines,
        p turn.rule turn.lines) ↔
      ∀ rule ∈ rules, p rule lines := by
  induction rules with
  | nil => simp [turns]
  | cons rule rest ih =>
      rw [turns, List.forall_mem_cons, List.forall_mem_cons]
      apply and_congr_right
      intro hFirst
      rcases hKeeps { rule, lines } hFirst with
        ⟨hNone, hKept⟩
      unfold Turn.Completes at hNone
      unfold Turn.Keeps at hKept
      simp only [hNone, hKept]
      exact ih

end Transform

end NotifyScope
