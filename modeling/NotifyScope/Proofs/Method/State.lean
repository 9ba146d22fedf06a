import NotifyScope.Proofs.Lines.Window
import NotifyScope.Proofs.Method.Location
import NotifyScope.Wrapper.Repair

/-
  How a method body is classified.  Between a declaration
  line and the line that closes it, all the tests that the
  classification makes stay inside the body, and a body is
  doubled exactly if a repair has a step to take.

  Key definitions include:
    * `Method.Spans`

  Main declarations:
    * `Wrapper.surplusClose?_eq`
    * `Method.bodyState_eq_doubled_iff`
    * `Method.bodyState_eq_canonical_iff`
    * `Method.bodyState_window`
-/

------------------------------------------------------------
-- Declarations with a Body
------------------------------------------------------------

namespace NotifyScope

namespace Method

/- A declaration line with the line that closes its block. -/
structure Spans
    (rule : Rule)
    (lines : Lines)
    (start stop : Nat) : Prop where
  closes : Block.close? lines start = some stop
  opener :
    (opener? rule (Lines.get lines start)).isSome = true

namespace Spans

variable {rule : Rule}
variable {lines : Lines}
variable {start stop : Nat}

theorem of_located
    {fallback : Text}
    {method : Method}
    (hLocated : Located rule fallback lines method) :
    Spans rule lines method.start method.stop := by
  refine ⟨hLocated.closes, ?_⟩
  rw [hLocated.name]
  rfl

theorem lt
    (hSpans : Spans rule lines start stop) :
    start < stop :=
  Block.lt_close? hSpans.closes

theorem braceBalance_start
    (hSpans : Spans rule lines start stop) :
    Line.braceBalance (Lines.get lines start) = 1 := by
  rcases Option.isSome_iff_exists.mp hSpans.opener with
    ⟨name, hName⟩
  exact braceBalance_of_opener? hName

theorem declaredName?_isSome
    (hSpans : Spans rule lines start stop) :
    (rule.declaredName?
      (Lines.get lines start)).isSome = true := by
  rcases Option.isSome_iff_exists.mp hSpans.opener with
    ⟨name, hName⟩
  rw [declaredName?_of_opener? hName]
  rfl

/- The closing line closes more than it opens. -/
theorem braceBalance_stop_lt
    (hSpans : Spans rule lines start stop) :
    Line.braceBalance (Lines.get lines stop) < 0 := by
  rcases Block.close?_eq_some_iff.mp hSpans.closes with
    ⟨hLess, hEnd, hOpen⟩
  have hLast := Lines.depth_succ lines stop
  have hBefore := hOpen stop hLess le_rfl
  omega

theorem filled_stop
    (hSpans : Spans rule lines start stop) :
    Text.allBlank (Lines.get lines stop) = false := by
  apply Line.not_allBlank_of_braceBalance_ne
  have := hSpans.braceBalance_stop_lt
  omega

/- Searches from inside a body meet a line of it. -/
theorem exists_nextFilled?
    (hSpans : Spans rule lines start stop)
    {i : Nat}
    (hLe : i ≤ stop) :
    ∃ next, Lines.nextFilled? lines i = some next ∧
      next ≤ stop := by
  cases hNext : Lines.nextFilled? lines i with
  | none =>
      have hBlank :=
        Lines.nextFilled?_eq_none_iff.mp hNext stop hLe
      rw [hSpans.filled_stop] at hBlank
      cases hBlank
  | some next =>
      refine ⟨next, rfl, ?_⟩
      rcases Lines.nextFilled?_eq_some_iff.mp hNext with
        ⟨_, _, hBlank⟩
      by_contra hLater
      have hStop := hBlank stop hLe (by omega)
      rw [hSpans.filled_stop] at hStop
      cases hStop

/- Behind the last line of a body its closing line follows. -/
theorem nextFilled?_last
    (hSpans : Spans rule lines start stop)
    {last : Nat}
    (hLast :
      Lines.lastFilled? lines (start + 1) stop =
        some last) :
    Lines.nextFilled? lines (last + 1) = some stop := by
  rcases Lines.lastFilled?_eq_some_iff.mp hLast with
    ⟨_, hLess, _, hBlank⟩
  rw [Lines.nextFilled?_eq_some_iff]
  refine ⟨by omega, hSpans.filled_stop, ?_⟩
  intro i hi hiStop
  exact hBlank i (by omega) hiStop

/- The first line of a body is not behind the last one. -/
theorem exists_first
    (hSpans : Spans rule lines start stop)
    {last : Nat}
    (hLast :
      Lines.lastFilled? lines (start + 1) stop =
        some last) :
    ∃ first,
      Lines.nextFilled? lines (start + 1) = some first ∧
        start < first ∧ first ≤ last ∧ last < stop := by
  rcases Lines.lastFilled?_eq_some_iff.mp hLast with
    ⟨hStart, hLess, hFilled, _⟩
  rcases hSpans.exists_nextFilled? (i := start + 1)
      hSpans.lt with
    ⟨first, hFirst, _⟩
  rcases Lines.nextFilled?_eq_some_iff.mp hFirst with
    ⟨hLe, _, hBlank⟩
  refine ⟨first, hFirst, hLe, ?_, hLess⟩
  by_contra hLater
  have hLastBlank := hBlank last hStart (by omega)
  rw [hFilled] at hLastBlank
  cases hLastBlank

/- A line that opens a wrapper does not close a method. -/
theorem first_lt_of_opensWrapper
    (hSpans : Spans rule lines start stop)
    {first : Nat}
    (hFirst :
      Lines.nextFilled? lines (start + 1) = some first)
    (hOpens :
      rule.opensWrapper (Lines.get lines first) = true) :
    first < stop := by
  rcases hSpans.exists_nextFilled? (i := start + 1)
      hSpans.lt with
    ⟨next, hNext, hLe⟩
  rw [hFirst, Option.some.injEq] at hNext
  subst hNext
  rcases Nat.lt_or_eq_of_le hLe with hLess | hEq
  · exact hLess
  · have hBalance := Rule.braceBalance_of_opensWrapper hOpens
    have hStop := hSpans.braceBalance_stop_lt
    rw [hEq] at hBalance
    omega

end Spans

end Method

------------------------------------------------------------
-- Surplus Closing Lines
------------------------------------------------------------

namespace Wrapper

variable {rule : Rule}
variable {lines : Lines}
variable {start stop last : Nat}

/-
  Below the last line of a body stands the line that closes
  the method.  It is a surplus one if both are closing lines
  of a wrapper and one of them is annotated: the walk back
  from it always ends at the declaration.
-/
theorem surplusClose?_eq
    (hSpans : Method.Spans rule lines start stop)
    (hLast :
      Lines.lastFilled? lines (start + 1) stop =
        some last) :
    surplusClose? rule lines last =
      if rule.closesEither (Lines.get lines last) = true ∧
          rule.closesEither (Lines.get lines stop) = true ∧
          (rule.closesAnnotated
              (Lines.get lines last) = true ∨
            rule.closesAnnotated
              (Lines.get lines stop) = true) then
        some stop
      else
        none := by
  have hNext := hSpans.nextFilled?_last hLast
  have hOpen :=
    Block.open?_of_close? hSpans.closes
      hSpans.braceBalance_start
  split
  · rename_i hClosers
    rw [surplusClose?_eq_some_iff]
    exact ⟨hClosers.1, hNext, hClosers.2.1, hClosers.2.2,
      start, hOpen, hSpans.declaredName?_isSome⟩
  · rename_i hNot
    cases hSurplus : surplusClose? rule lines last with
    | none => rfl
    | some below =>
        rcases surplusClose?_eq_some_iff.mp hSurplus with
          ⟨hCloses, hBelow, hStop, hAnnotated, _⟩
        rw [hNext, Option.some.injEq] at hBelow
        subst hBelow
        exact absurd ⟨hCloses, hStop, hAnnotated⟩ hNot

end Wrapper

------------------------------------------------------------
-- Steps That a Repair Can Take
------------------------------------------------------------

namespace Repair

variable {rule : Rule}
variable {lines : Lines}
variable {start stop : Nat}

/- Wrappers are collapsed where a pair starts the body. -/
theorem collapse?_isSome_iff
    (hSpans : Method.Spans rule lines start stop) :
    (collapse? rule start lines).isSome = true ↔
      ∃ first pair,
        Lines.nextFilled? lines (start + 1) = some first ∧
        Wrapper.stackedAt? rule lines first = some pair := by
  constructor
  · intro hSome
    rcases Option.isSome_iff_exists.mp hSome with
      ⟨next, hNext⟩
    rcases collapse?_eq_some_iff.mp hNext with
      ⟨_, first, pair, _, hFirst, _, hPair, _⟩
    exact ⟨first, pair, hFirst, hPair⟩
  · rintro ⟨first, pair, hFirst, hPair⟩
    have hOpens :=
      (Wrapper.stackedAt?_eq_some_iff.mp hPair).1
    have hStart := Lines.le_nextFilled? hFirst
    have hLess :=
      hSpans.first_lt_of_opensWrapper hFirst hOpens
    have hOuter :=
      Wrapper.outerClose_lt hSpans.closes hPair hStart hLess
    rw [Option.isSome_iff_exists]
    exact ⟨_, collapse?_eq_some_iff.mpr
      ⟨stop, first, pair, hSpans.closes, hFirst, hLess,
        hPair, hOuter, rfl⟩⟩

/- What it takes for a closing line to be dropped. -/
theorem dropSurplus?_isSome_iff
    (hSpans : Method.Spans rule lines start stop) :
    (dropSurplus? rule start lines).isSome = true ↔
      ∃ last,
        Lines.lastFilled? lines (start + 1) stop =
          some last ∧
        rule.closesEither (Lines.get lines last) = true ∧
        rule.closesEither (Lines.get lines stop) = true ∧
        (rule.closesAnnotated
            (Lines.get lines last) = true ∨
          rule.closesAnnotated
            (Lines.get lines stop) = true) := by
  constructor
  · intro hSome
    rcases Option.isSome_iff_exists.mp hSome with
      ⟨next, hNext⟩
    rcases dropSurplus?_eq_some_iff.mp hNext with
      ⟨other, last, hClose, hLast, hSurplus, _⟩
    rw [hSpans.closes, Option.some.injEq] at hClose
    subst hClose
    rw [Wrapper.surplusClose?_eq hSpans hLast] at hSurplus
    split at hSurplus
    · rename_i hClosers
      exact ⟨last, hLast, hClosers⟩
    · cases hSurplus
  · rintro ⟨last, hLast, hClosers⟩
    rw [Option.isSome_iff_exists]
    refine ⟨_, dropSurplus?_eq_some_iff.mpr
      ⟨stop, last, hSpans.closes, hLast, ?_, rfl⟩⟩
    rw [Wrapper.surplusClose?_eq hSpans hLast,
      if_pos hClosers]

/- The test for a surplus line is that for dropping it. -/
theorem surplusClose?_isSome_iff
    (hSpans : Method.Spans rule lines start stop)
    {last : Nat}
    (hLast :
      Lines.lastFilled? lines (start + 1) stop =
        some last) :
    (Wrapper.surplusClose? rule lines last).isSome = true ↔
      (dropSurplus? rule start lines).isSome = true := by
  rw [dropSurplus?_isSome_iff hSpans,
    Wrapper.surplusClose?_eq hSpans hLast]
  constructor
  · intro hSome
    split at hSome
    · rename_i hClosers
      exact ⟨last, hLast, hClosers⟩
    · cases hSome
  · rintro ⟨other, hOther, hClosers⟩
    rw [hLast, Option.some.injEq] at hOther
    subst hOther
    rw [if_pos hClosers]
    rfl

end Repair

------------------------------------------------------------
-- States
------------------------------------------------------------

namespace Method

/-
  A body that is one wrapper: its first line that is not
  blank opens the block that its last one closes.
-/
structure Wrapped
    (rule : Rule)
    (lines : Lines)
    (start stop first last : Nat) : Prop where
  isFirst :
    Lines.nextFilled? lines (start + 1) = some first
  isLast :
    Lines.lastFilled? lines (start + 1) stop = some last
  opens : rule.opensWrapper (Lines.get lines first) = true
  closes : Block.close? lines first = some last

variable {rule : Rule}
variable {lines : Lines}
variable {method : Method}

/- A pair of wrappers takes up more than one line. -/
theorem first_ne_last_of_stackedAt?
    {start stop first last : Nat}
    {pair : Wrapper.StackedPair}
    (hSpans : Spans rule lines start stop)
    (hLast :
      Lines.lastFilled? lines (start + 1) stop = some last)
    (hPair :
      Wrapper.stackedAt? rule lines first = some pair)
    (hStart : start < first)
    (hStop : first < stop) :
    first ≠ last := by
  rintro rfl
  rcases Wrapper.order_of_stackedAt? hPair with
    ⟨hOpen, hClose, hOuter⟩
  have hLess :=
    Wrapper.outerClose_lt hSpans.closes hPair hStart hStop
  rcases Wrapper.stackedAt?_eq_some_iff.mp hPair with
    ⟨_, _, _, _, _, hNext, _⟩
  have hFilled :=
    (Lines.nextFilled?_eq_some_iff.mp hNext).2.1
  rcases Lines.lastFilled?_eq_some_iff.mp hLast with
    ⟨_, _, _, hBlank⟩
  rw [hBlank pair.outerClose (by omega) hLess] at hFilled
  cases hFilled

/- What a body is classified as, test by test. -/
theorem bodyState_of_last
    (hSpans :
      Spans rule lines method.start method.stop)
    {first last : Nat}
    (hFirst :
      Lines.nextFilled? lines (method.start + 1) =
        some first)
    (hLast :
      Lines.lastFilled? lines (method.start + 1)
        method.stop = some last) :
    method.bodyState rule lines =
      if (Repair.dropSurplus? rule method.start
          lines).isSome = true then
        .doubled
      else if first = last ∨
          rule.opensWrapper
            (Lines.get lines first) = false then
        .unwrapped
      else if (Wrapper.stackedAt? rule lines
          first).isSome = true then
        .doubled
      else if Block.close? lines first ≠ some last then
        .unwrapped
      else if rule.closesWrapper
          (Lines.get lines last) = true then
        .canonical
      else if rule.closesAnnotated
          (Lines.get lines last) = true then
        .legacy
      else
        .unwrapped := by
  unfold bodyState
  simp only [hLast, hFirst, Option.getD_some,
    Repair.surplusClose?_isSome_iff hSpans hLast,
    Bool.or_eq_true, decide_eq_true_eq,
    Bool.not_eq_true']

/- A body is doubled if a repair has a step to take. -/
theorem bodyState_eq_doubled_iff
    (hSpans :
      Spans rule lines method.start method.stop) :
    method.bodyState rule lines = .doubled ↔
      (Repair.collapse? rule method.start
          lines).isSome = true ∨
        (Repair.dropSurplus? rule method.start
          lines).isSome = true := by
  rw [Repair.collapse?_isSome_iff hSpans]
  cases hLast :
      Lines.lastFilled? lines (method.start + 1)
        method.stop with
  | none =>
      have hState :
          method.bodyState rule lines = .unwrapped := by
        unfold bodyState
        rw [hLast]
      rw [hState, Repair.dropSurplus?_isSome_iff hSpans]
      constructor
      · intro hDoubled
        cases hDoubled
      · rintro (⟨first, pair, hFirst, hPair⟩ |
          ⟨last, hSome, _⟩)
        · have hOpens :=
            (Wrapper.stackedAt?_eq_some_iff.mp hPair).1
          have hFilled :=
            (Lines.nextFilled?_eq_some_iff.mp hFirst).2.1
          rw [Lines.lastFilled?_eq_none_iff.mp hLast first
            (Lines.le_nextFilled? hFirst)
            (hSpans.first_lt_of_opensWrapper hFirst hOpens)]
            at hFilled
          cases hFilled
        · rw [hLast] at hSome
          cases hSome
  | some last =>
      rcases hSpans.exists_first hLast with
        ⟨first, hFirst, _, hLe, hLess⟩
      have hPair :
          (∃ other pair,
            Lines.nextFilled? lines (method.start + 1) =
              some other ∧
            Wrapper.stackedAt? rule lines other =
              some pair) ↔
          (Wrapper.stackedAt? rule lines
            first).isSome = true := by
        rw [Option.isSome_iff_exists]
        constructor
        · rintro ⟨other, pair, hOther, hPair⟩
          rw [hFirst, Option.some.injEq] at hOther
          subst hOther
          exact ⟨pair, hPair⟩
        · rintro ⟨pair, hPair⟩
          exact ⟨first, pair, hFirst, hPair⟩
      rw [bodyState_of_last hSpans hFirst hLast, hPair]
      by_cases hDrop :
          (Repair.dropSurplus? rule method.start
            lines).isSome = true
      · simp only [hDrop, if_true, or_true]
      · by_cases hStacked :
            (Wrapper.stackedAt? rule lines
              first).isSome = true
        · rcases Option.isSome_iff_exists.mp hStacked with
            ⟨pair, hPair⟩
          have hOpens :=
            (Wrapper.stackedAt?_eq_some_iff.mp hPair).1
          have hNe :=
            first_ne_last_of_stackedAt? hSpans hLast hPair
              (by omega) (by omega)
          simp only [hDrop, hStacked, hOpens, hNe,
            Bool.true_eq_false, if_true, or_false]
          decide
        · simp only [hDrop, hStacked, Bool.false_eq_true,
            if_false, or_self, iff_false]
          repeat' split
          all_goals decide

/-
  Without a step to take, what counts is whether the body is
  one wrapper, and in which form that is closed.
-/
theorem bodyState_of_wrapped
    (hSpans :
      Spans rule lines method.start method.stop)
    (hCollapse :
      Repair.collapse? rule method.start lines = none)
    (hDrop :
      Repair.dropSurplus? rule method.start lines = none)
    {first last : Nat}
    (hWrapped :
      Wrapped rule lines method.start method.stop first
        last) :
    method.bodyState rule lines =
      if rule.closesWrapper
          (Lines.get lines last) = true then
        .canonical
      else if rule.closesAnnotated
          (Lines.get lines last) = true then
        .legacy
      else
        .unwrapped := by
  have hStacked :
      ¬(Wrapper.stackedAt? rule lines
        first).isSome = true := by
    intro hSome
    rcases Option.isSome_iff_exists.mp hSome with
      ⟨pair, hPair⟩
    have hCollapseSome :=
      (Repair.collapse?_isSome_iff hSpans).mpr
        ⟨first, pair, hWrapped.isFirst, hPair⟩
    rw [hCollapse] at hCollapseSome
    cases hCollapseSome
  have hNe := (Block.lt_close? hWrapped.closes).ne
  rw [bodyState_of_last hSpans hWrapped.isFirst
    hWrapped.isLast]
  simp only [hDrop, Option.isSome_none, hStacked, hNe,
    hWrapped.opens, hWrapped.closes, Bool.false_eq_true,
    Bool.true_eq_false, or_self, ne_eq, not_true_eq_false,
    if_false]

/- Anything but a wrapper around all of a body is none. -/
theorem exists_wrapped
    (hSpans :
      Spans rule lines method.start method.stop)
    (hState :
      method.bodyState rule lines = .canonical ∨
        method.bodyState rule lines = .legacy) :
    ∃ first last,
      Wrapped rule lines method.start method.stop first
        last := by
  cases hLast :
      Lines.lastFilled? lines (method.start + 1)
        method.stop with
  | none =>
      unfold bodyState at hState
      rw [hLast] at hState
      rcases hState with hState | hState
      all_goals cases hState
  | some last =>
      rcases hSpans.exists_first hLast with
        ⟨first, hFirst, _⟩
      refine ⟨first, last, hFirst, hLast, ?_, ?_⟩
      · by_contra hNot
        rw [Bool.not_eq_true] at hNot
        rw [bodyState_of_last hSpans hFirst hLast] at hState
        simp only [hNot, or_true, if_true] at hState
        split at hState
        all_goals
          rcases hState with hState | hState
          all_goals cases hState
      · by_contra hNot
        rw [bodyState_of_last hSpans hFirst hLast] at hState
        simp only [ne_eq, hNot, not_false_eq_true, if_true]
          at hState
        repeat' split at hState
        all_goals
          rcases hState with hState | hState
          all_goals cases hState

/- Whether a repair has no step to take. -/
theorem settled_of_ne_doubled
    (hSpans :
      Spans rule lines method.start method.stop)
    (hState : method.bodyState rule lines ≠ .doubled) :
    Repair.collapse? rule method.start lines = none ∧
      Repair.dropSurplus? rule method.start lines =
        none := by
  rw [ne_eq, bodyState_eq_doubled_iff hSpans, not_or,
    Option.not_isSome_iff_eq_none,
    Option.not_isSome_iff_eq_none] at hState
  exact hState

/- The end of what is no wrapper is in neither form. -/
theorem closesEither_of_unwrapped
    (hSpans :
      Spans rule lines method.start method.stop)
    (hState : method.bodyState rule lines = .unwrapped)
    {first last : Nat}
    (hWrapped :
      Wrapped rule lines method.start method.stop first
        last) :
    rule.closesEither (Lines.get lines last) = false := by
  rcases settled_of_ne_doubled hSpans (by
    rw [hState]
    decide) with ⟨hCollapse, hDrop⟩
  rw [bodyState_of_wrapped hSpans hCollapse hDrop hWrapped]
    at hState
  split at hState
  · cases hState
  · rename_i hCloses
    split at hState
    · cases hState
    · rename_i hLegacy
      unfold Rule.closesEither
      rw [Bool.or_eq_false_iff]
      exact ⟨Bool.eq_false_iff.mpr hCloses,
        Bool.eq_false_iff.mpr hLegacy⟩

theorem bodyState_eq_canonical_iff
    (hSpans :
      Spans rule lines method.start method.stop) :
    method.bodyState rule lines = .canonical ↔
      Repair.collapse? rule method.start lines = none ∧
        Repair.dropSurplus? rule method.start lines = none ∧
        ∃ first last,
          Wrapped rule lines method.start method.stop first
            last ∧
          rule.closesWrapper
            (Lines.get lines last) = true := by
  constructor
  · intro hState
    rcases settled_of_ne_doubled hSpans (by
      rw [hState]
      decide) with ⟨hCollapse, hDrop⟩
    rcases exists_wrapped hSpans (.inl hState) with
      ⟨first, last, hWrapped⟩
    refine ⟨hCollapse, hDrop, first, last, hWrapped, ?_⟩
    rw [bodyState_of_wrapped hSpans hCollapse hDrop hWrapped]
      at hState
    split at hState
    · assumption
    · split at hState
      all_goals cases hState
  · rintro ⟨hCollapse, hDrop, first, last, hWrapped, hCloses⟩
    rw [bodyState_of_wrapped hSpans hCollapse hDrop hWrapped,
      if_pos hCloses]

theorem bodyState_eq_legacy_iff
    (hSpans :
      Spans rule lines method.start method.stop) :
    method.bodyState rule lines = .legacy ↔
      Repair.collapse? rule method.start lines = none ∧
        Repair.dropSurplus? rule method.start lines = none ∧
        ∃ first last,
          Wrapped rule lines method.start method.stop first
            last ∧
          rule.closesAnnotated
            (Lines.get lines last) = true := by
  constructor
  · intro hState
    rcases settled_of_ne_doubled hSpans (by
      rw [hState]
      decide) with ⟨hCollapse, hDrop⟩
    rcases exists_wrapped hSpans (.inr hState) with
      ⟨first, last, hWrapped⟩
    refine ⟨hCollapse, hDrop, first, last, hWrapped, ?_⟩
    rw [bodyState_of_wrapped hSpans hCollapse hDrop hWrapped]
      at hState
    split at hState
    · cases hState
    · split at hState
      · assumption
      · cases hState
  · rintro ⟨hCollapse, hDrop, first, last, hWrapped,
      hAnnotated⟩
    have hNot :
        ¬rule.closesWrapper (Lines.get lines last) = true :=
      by
        rw [Rule.closesWrapper_iff,
          Rule.closesAnnotated_iff.mp hAnnotated]
        exact rule.legacyClose_ne
    rw [bodyState_of_wrapped hSpans hCollapse hDrop hWrapped,
      if_neg hNot, if_pos hAnnotated]

end Method

------------------------------------------------------------
-- States in Another Place
------------------------------------------------------------

namespace Lines

namespace Window

open Method

variable {rule : Rule}
variable {left right : Lines}
variable {a b n s : Nat}

theorem spans
    (hWindow : Window rule left a right b n)
    (hLess : s < n)
    (hOpener :
      (opener? rule (get right b)).isSome = true)
    (hSpans : Spans rule left a (a + s)) :
    Spans rule right b (b + s) :=
  ⟨hWindow.close? (i := 0) hLess hSpans.closes, hOpener⟩

theorem collapse?_isSome
    (hWindow : Window rule left a right b n)
    (hLess : s < n)
    (hLeft : Spans rule left a (a + s))
    (hRight : Spans rule right b (b + s))
    (hSome :
      (Repair.collapse? rule a left).isSome = true) :
    (Repair.collapse? rule b right).isSome = true := by
  rw [Repair.collapse?_isSome_iff hLeft] at hSome
  rw [Repair.collapse?_isSome_iff hRight]
  rcases hSome with ⟨first, pair, hFirst, hPair⟩
  have hStart := Lines.le_nextFilled? hFirst
  have hStop :=
    hLeft.first_lt_of_opensWrapper hFirst
      (Wrapper.stackedAt?_eq_some_iff.mp hPair).1
  have hOuter :=
    Wrapper.outerClose_lt hLeft.closes hPair hStart hStop
  obtain ⟨f, rfl⟩ :=
    Nat.exists_eq_add_of_le (show a ≤ first by omega)
  rcases Wrapper.exists_shift_of_stackedAt? hPair
      (Nat.le_add_right a f) with
    ⟨part, rfl⟩
  simp only [Wrapper.StackedPair.shift] at hOuter
  exact ⟨b + f, part.shift b,
    hWindow.nextFilled? (by omega) hFirst,
    hWindow.stackedAt? (by omega) hPair⟩

theorem dropSurplus?_isSome
    (hWindow : Window rule left a right b n)
    (hAnnotated : ∀ i, i < n →
      rule.closesAnnotated (get left (a + i)) = true →
      rule.closesAnnotated (get right (b + i)) = true)
    (hLess : s < n)
    (hLeft : Spans rule left a (a + s))
    (hRight : Spans rule right b (b + s))
    (hSome :
      (Repair.dropSurplus? rule a left).isSome = true) :
    (Repair.dropSurplus? rule b right).isSome = true := by
  rw [Repair.dropSurplus?_isSome_iff hLeft] at hSome
  rw [Repair.dropSurplus?_isSome_iff hRight]
  rcases hSome with ⟨last, hLast, hCloses, hStop, hEither⟩
  have hOrder := lastFilled?_eq_some_iff.mp hLast
  obtain ⟨l, rfl⟩ :=
    Nat.exists_eq_add_of_le (show a ≤ last by omega)
  refine ⟨b + l, hWindow.lastFilled? (by omega) hLast,
    ?_, ?_, ?_⟩
  · rw [← (hWindow l (by omega)).closes]
    exact hCloses
  · rw [← (hWindow s hLess).closes]
    exact hStop
  · exact hEither.imp (hAnnotated l (by omega))
      (hAnnotated s hLess)

theorem wrapped
    (hWindow : Window rule left a right b n)
    (hLess : s < n)
    {first last : Nat}
    (hWrapped : Wrapped rule left a (a + s) first last) :
    ∃ f l, first = a + f ∧ last = a + l ∧ l < s ∧
      Wrapped rule right b (b + s) (b + f) (b + l) := by
  have hOrder := lastFilled?_eq_some_iff.mp hWrapped.isLast
  have hStart := Lines.le_nextFilled? hWrapped.isFirst
  have hClose := Block.lt_close? hWrapped.closes
  obtain ⟨f, rfl⟩ :=
    Nat.exists_eq_add_of_le (show a ≤ first by omega)
  obtain ⟨l, rfl⟩ :=
    Nat.exists_eq_add_of_le (show a ≤ last by omega)
  refine ⟨f, l, rfl, rfl, by omega, ?_, ?_, ?_, ?_⟩
  · exact hWindow.nextFilled? (by omega) hWrapped.isFirst
  · exact hWindow.lastFilled? (by omega) hWrapped.isLast
  · rw [← (hWindow f (by omega)).opens]
    exact hWrapped.opens
  · exact hWindow.close? (by omega) hWrapped.closes

theorem collapse?_eq_none
    (hWindow : Window rule left a right b n)
    (hLess : s < n)
    (hLeft : Spans rule left a (a + s))
    (hRight : Spans rule right b (b + s))
    (hNone : Repair.collapse? rule a left = none) :
    Repair.collapse? rule b right = none := by
  rw [← Option.not_isSome_iff_eq_none]
  intro hSome
  have hBack :=
    hWindow.symm.collapse?_isSome hLess hRight hLeft hSome
  rw [hNone] at hBack
  cases hBack

theorem dropSurplus?_eq_none
    (hWindow : Window rule left a right b n)
    (hAnnotated : ∀ i, i < n →
      rule.closesAnnotated (get right (b + i)) = true →
      rule.closesAnnotated (get left (a + i)) = true)
    (hLess : s < n)
    (hLeft : Spans rule left a (a + s))
    (hRight : Spans rule right b (b + s))
    (hNone : Repair.dropSurplus? rule a left = none) :
    Repair.dropSurplus? rule b right = none := by
  rw [← Option.not_isSome_iff_eq_none]
  intro hSome
  have hBack :=
    hWindow.symm.dropSurplus?_isSome hAnnotated hLess
      hRight hLeft hSome
  rw [hNone] at hBack
  cases hBack

end Window

end Lines

namespace Method

variable {rule : Rule}
variable {left right : Lines}
variable {method other : Method}
variable {s : Nat}

/-
  The state of a body depends on its own lines only: a body
  with lines that look the same elsewhere has the same state.
-/
theorem bodyState_of_window
    (hWindow :
      Lines.Window rule left method.start right other.start
        (s + 1))
    (hAnnotated : ∀ i, i < s + 1 →
      rule.closesAnnotated
          (Lines.get left (method.start + i)) =
        rule.closesAnnotated
          (Lines.get right (other.start + i)))
    (hStop : method.stop = method.start + s)
    (hOtherStop : other.stop = other.start + s)
    (hLeft : Spans rule left method.start method.stop)
    (hRight : Spans rule right other.start other.stop)
    (hState : method.bodyState rule left ≠ .unwrapped) :
    other.bodyState rule right =
      method.bodyState rule left := by
  have hLess : s < s + 1 := Nat.lt_succ_self s
  have hLeftSpans := hLeft
  have hRightSpans := hRight
  rw [hStop] at hLeftSpans
  rw [hOtherStop] at hRightSpans
  have hNone :
      Repair.collapse? rule method.start left = none →
      Repair.dropSurplus? rule method.start left = none →
      Repair.collapse? rule other.start right = none ∧
        Repair.dropSurplus? rule other.start right =
          none := by
    intro hCollapse hDrop
    constructor
    · exact hWindow.collapse?_eq_none hLess hLeftSpans
        hRightSpans hCollapse
    · apply hWindow.dropSurplus?_eq_none ?_ hLess hLeftSpans
        hRightSpans hDrop
      intro i hi hRightCloses
      rw [hAnnotated i hi]
      exact hRightCloses
  cases hLeftState : method.bodyState rule left with
  | unwrapped => exact absurd hLeftState hState
  | doubled =>
      rw [bodyState_eq_doubled_iff hLeft] at hLeftState
      rw [bodyState_eq_doubled_iff hRight]
      rcases hLeftState with hCollapse | hDrop
      · exact .inl (hWindow.collapse?_isSome hLess
          hLeftSpans hRightSpans hCollapse)
      · refine .inr (hWindow.dropSurplus?_isSome ?_ hLess
          hLeftSpans hRightSpans hDrop)
        intro i hi hLeftCloses
        rw [← hAnnotated i hi]
        exact hLeftCloses
  | canonical =>
      rw [bodyState_eq_canonical_iff hLeft] at hLeftState
      rw [bodyState_eq_canonical_iff hRight]
      rcases hLeftState with
        ⟨hCollapse, hDrop, first, last, hWrapped, hCloses⟩
      rw [hStop] at hWrapped
      rcases hWindow.wrapped hLess hWrapped with
        ⟨f, l, rfl, rfl, hl, hOther⟩
      rw [← hOtherStop] at hOther
      refine ⟨(hNone hCollapse hDrop).1,
        (hNone hCollapse hDrop).2, _, _, hOther, ?_⟩
      rw [Rule.closesWrapper_eq] at hCloses ⊢
      rw [← (hWindow l (by omega)).closes,
        ← hAnnotated l (by omega)]
      exact hCloses
  | legacy =>
      rw [bodyState_eq_legacy_iff hLeft] at hLeftState
      rw [bodyState_eq_legacy_iff hRight]
      rcases hLeftState with
        ⟨hCollapse, hDrop, first, last, hWrapped, hCloses⟩
      rw [hStop] at hWrapped
      rcases hWindow.wrapped hLess hWrapped with
        ⟨f, l, rfl, rfl, hl, hOther⟩
      rw [← hOtherStop] at hOther
      refine ⟨(hNone hCollapse hDrop).1,
        (hNone hCollapse hDrop).2, _, _, hOther, ?_⟩
      rw [← hAnnotated l (by omega)]
      exact hCloses

/- Bodies that look the same have the same state. -/
theorem bodyState_window
    (hWindow :
      Lines.Window rule left method.start right other.start
        (s + 1))
    (hAnnotated : ∀ i, i < s + 1 →
      rule.closesAnnotated
          (Lines.get left (method.start + i)) =
        rule.closesAnnotated
          (Lines.get right (other.start + i)))
    (hStop : method.stop = method.start + s)
    (hOtherStop : other.stop = other.start + s)
    (hLeft : Spans rule left method.start method.stop)
    (hRight : Spans rule right other.start other.stop) :
    method.bodyState rule left =
      other.bodyState rule right := by
  by_cases hState : method.bodyState rule left = .unwrapped
  · by_cases hOther : other.bodyState rule right = .unwrapped
    · rw [hState, hOther]
    · exact bodyState_of_window hWindow.symm
        (fun i hi => (hAnnotated i hi).symm) hOtherStop
        hStop hRight hLeft hOther
  · exact (bodyState_of_window hWindow hAnnotated hStop
      hOtherStop hLeft hRight hState).symm

end Method

end NotifyScope
