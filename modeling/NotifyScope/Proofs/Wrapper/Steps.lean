import NotifyScope.Proofs.Block.Depth
import NotifyScope.Wrapper.Repair

/-
  What the searches for damaged wrappers and the steps of a
  repair can do, each said once: a step that applies comes
  with everything that it has found, and whatever both kinds
  of steps keep is kept until a repair has settled.

  Main declarations:
    * `Wrapper.stackedAt?_eq_some_iff`
    * `Wrapper.surplusClose?_eq_some_iff`
    * `Repair.collapse?_eq_some_iff`
    * `Repair.dropSurplus?_eq_some_iff`
    * `Repair.settle_induction`
    * `Repair.settle_invariant`
    * `Repair.settle_ends`
-/

------------------------------------------------------------
-- Recognised Lines
------------------------------------------------------------

namespace NotifyScope

namespace Rule

variable {rule : Rule}

theorem opensWrapper_iff
    {line : Line} :
    rule.opensWrapper line = true ↔
      Text.trim line = rule.wrapOpen := by
  simp [opensWrapper]

theorem closesWrapper_iff
    {line : Line} :
    rule.closesWrapper line = true ↔
      Text.trim line = rule.wrapClose := by
  simp [closesWrapper]

theorem closesAnnotated_iff
    {line : Line} :
    rule.closesAnnotated line = true ↔
      Text.trim line = rule.legacyClose := by
  simp [closesAnnotated]

theorem closesEither_iff
    {line : Line} :
    rule.closesEither line = true ↔
      Text.trim line = rule.wrapClose ∨
        Text.trim line = rule.legacyClose := by
  simp [closesEither, closesWrapper, closesAnnotated]

/- The two forms of a closing line exclude each other. -/
theorem closesWrapper_eq
    (line : Line) :
    rule.closesWrapper line =
      (rule.closesEither line &&
        !rule.closesAnnotated line) := by
  unfold closesEither
  cases hAnnotated : rule.closesAnnotated line with
  | false => simp
  | true =>
      cases hCloses : rule.closesWrapper line with
      | false => rfl
      | true =>
          rw [closesAnnotated_iff] at hAnnotated
          rw [closesWrapper_iff, hAnnotated] at hCloses
          exact absurd hCloses rule.legacyClose_ne

theorem closesAnnotated_congr
    {left right : Line}
    (hTrim : Text.trim left = Text.trim right) :
    rule.closesAnnotated left =
      rule.closesAnnotated right := by
  unfold closesAnnotated
  rw [hTrim]

/- An opening line opens one block. -/
theorem braceBalance_of_opensWrapper
    {line : Line}
    (hOpens : rule.opensWrapper line = true) :
    Line.braceBalance line = 1 := by
  rw [← Line.braceBalance_trim,
    opensWrapper_iff.mp hOpens]
  exact rule.wrapOpen_balance

/- A closing line of either form closes one block. -/
theorem braceBalance_of_closesEither
    {line : Line}
    (hCloses : rule.closesEither line = true) :
    Line.braceBalance line = -1 := by
  rw [← Line.braceBalance_trim]
  rcases closesEither_iff.mp hCloses with hClose | hLegacy
  · rw [hClose]
    exact rule.wrapClose_balance
  · rw [hLegacy]
    exact rule.legacyClose_balance

/- An indented wrapper line is one. -/
theorem opensWrapper_append
    {blank : Text}
    (hBlank : Text.allBlank blank = true) :
    rule.opensWrapper (blank ++ rule.wrapOpen) = true := by
  rw [opensWrapper_iff,
    Text.trim_append_left rule.wrapOpen hBlank,
    rule.wrapOpen_trim]

theorem closesWrapper_append
    {blank : Text}
    (hBlank : Text.allBlank blank = true) :
    rule.closesWrapper (blank ++ rule.wrapClose) = true := by
  rw [closesWrapper_iff,
    Text.trim_append_left rule.wrapClose hBlank,
    rule.wrapClose_trim]

theorem closesEither_of_closesWrapper
    {line : Line}
    (hCloses : rule.closesWrapper line = true) :
    rule.closesEither line = true := by
  unfold closesEither
  rw [hCloses, Bool.true_or]

theorem closesEither_of_closesAnnotated
    {line : Line}
    (hCloses : rule.closesAnnotated line = true) :
    rule.closesEither line = true := by
  unfold closesEither
  rw [hCloses, Bool.or_true]

end Rule

------------------------------------------------------------
-- Damaged Wrappers
------------------------------------------------------------

namespace Wrapper

variable {rule : Rule} {lines : Lines}

theorem stackedAt?_eq_some_iff
    {i : Nat}
    {pair : StackedPair} :
    stackedAt? rule lines i = some pair ↔
      rule.opensWrapper (Lines.get lines i) = true ∧
        Lines.nextFilled? lines (i + 1) =
          some pair.innerOpen ∧
        rule.opensWrapper
          (Lines.get lines pair.innerOpen) = true ∧
        Block.close? lines i = some pair.outerClose ∧
        Block.close? lines pair.innerOpen =
          some pair.innerClose ∧
        Lines.nextFilled? lines (pair.innerClose + 1) =
          some pair.outerClose ∧
        rule.closesEither
          (Lines.get lines pair.innerClose) = true ∧
        rule.closesEither
          (Lines.get lines pair.outerClose) = true := by
  constructor
  · intro hStacked
    unfold stackedAt? at hStacked
    split at hStacked
    · rename_i hOpens
      split at hStacked
      · cases hStacked
      · rename_i innerOpen hInner
        split at hStacked
        · rename_i hInnerOpens
          split at hStacked
          · rename_i outerClose innerClose hOuter hInnerEnd
            split at hStacked
            · rename_i hClosers
              simp only [Bool.and_eq_true,
                decide_eq_true_eq] at hClosers
              cases hStacked
              exact ⟨hOpens, hInner, hInnerOpens, hOuter,
                hInnerEnd, hClosers.1.1, hClosers.1.2,
                hClosers.2⟩
            · cases hStacked
          · cases hStacked
        · cases hStacked
    · cases hStacked
  · rintro ⟨hOpens, hInner, hInnerOpens, hOuter, hInnerEnd,
      hNext, hInnerCloses, hOuterCloses⟩
    unfold stackedAt?
    simp only [hOpens, hInner, hInnerOpens, hOuter,
      hInnerEnd, hNext, hInnerCloses, hOuterCloses,
      decide_true, Bool.and_true, if_true]

theorem surplusClose?_eq_some_iff
    {i below : Nat} :
    surplusClose? rule lines i = some below ↔
      rule.closesEither (Lines.get lines i) = true ∧
        Lines.nextFilled? lines (i + 1) = some below ∧
        rule.closesEither (Lines.get lines below) = true ∧
        (rule.closesAnnotated (Lines.get lines i) = true ∨
          rule.closesAnnotated
            (Lines.get lines below) = true) ∧
        ∃ opener, Block.open? lines below = some opener ∧
          (rule.declaredName?
            (Lines.get lines opener)).isSome = true := by
  constructor
  · intro hSurplus
    unfold surplusClose? at hSurplus
    split at hSurplus
    · rename_i hCloses
      split at hSurplus
      · cases hSurplus
      · rename_i next hNext
        split at hSurplus
        · rename_i hBoth
          simp only [Bool.and_eq_true, Bool.or_eq_true]
            at hBoth
          split at hSurplus
          · cases hSurplus
          · rename_i opener hOpener
            split at hSurplus
            · rename_i hName
              cases hSurplus
              exact ⟨hCloses, hNext, hBoth.1, hBoth.2,
                opener, hOpener, hName⟩
            · cases hSurplus
        · cases hSurplus
    · cases hSurplus
  · rintro ⟨hCloses, hNext, hBelow, hAnnotated, opener,
      hOpener, hName⟩
    have hBoth :
        (rule.closesEither (Lines.get lines below) &&
          (rule.closesAnnotated (Lines.get lines i) ||
            rule.closesAnnotated
              (Lines.get lines below))) = true := by
      rw [hBelow, Bool.true_and, Bool.or_eq_true]
      exact hAnnotated
    unfold surplusClose?
    simp only [hCloses, hNext, hBoth, hOpener, hName,
      if_true]

end Wrapper

------------------------------------------------------------
-- Steps of a Repair
------------------------------------------------------------

namespace Repair

variable {rule : Rule} {start : Nat} {lines next : Lines}

/- The lines without the inner one of two wrappers. -/
def collapsed
    (lines : Lines)
    (first : Nat)
    (pair : Wrapper.StackedPair) : Lines :=
  ((Lines.outdent lines first pair.innerOpen
    pair.innerClose).eraseIdx pair.innerClose).eraseIdx
      pair.innerOpen

theorem collapse?_eq_some_iff :
    collapse? rule start lines = some next ↔
      ∃ stop first pair,
        Block.close? lines start = some stop ∧
        Lines.nextFilled? lines (start + 1) = some first ∧
        first < stop ∧
        Wrapper.stackedAt? rule lines first = some pair ∧
        pair.outerClose < stop ∧
        next = collapsed lines first pair := by
  constructor
  · intro hCollapse
    unfold collapse? at hCollapse
    split at hCollapse
    · rename_i stop first hClose hFirst
      split at hCollapse
      · rename_i hLess
        split at hCollapse
        · rename_i pair hPair
          split at hCollapse
          · rename_i hOuter
            cases hCollapse
            exact ⟨stop, first, pair, hClose, hFirst, hLess,
              hPair, hOuter, rfl⟩
          · cases hCollapse
        · cases hCollapse
      · cases hCollapse
    · cases hCollapse
  · rintro ⟨stop, first, pair, hClose, hFirst, hLess, hPair,
      hOuter, rfl⟩
    unfold collapse? collapsed
    simp only [hClose, hFirst, hLess, hPair, hOuter,
      if_true]

theorem dropSurplus?_eq_some_iff :
    dropSurplus? rule start lines = some next ↔
      ∃ stop last,
        Block.close? lines start = some stop ∧
        Lines.lastFilled? lines (start + 1) stop =
          some last ∧
        Wrapper.surplusClose? rule lines last = some stop ∧
        next = lines.eraseIdx stop := by
  constructor
  · intro hDrop
    unfold dropSurplus? at hDrop
    split at hDrop
    · cases hDrop
    · rename_i stop hClose
      split at hDrop
      · cases hDrop
      · rename_i last hLast
        split at hDrop
        · rename_i hSurplus
          cases hDrop
          exact ⟨stop, last, hClose, hLast, hSurplus, rfl⟩
        · cases hDrop
  · rintro ⟨stop, last, hClose, hLast, hSurplus, rfl⟩
    unfold dropSurplus?
    simp only [hClose, hLast, hSurplus, if_true]

------------------------------------------------------------
-- Settling
------------------------------------------------------------

theorem settle_of_collapse
    (hCollapse : collapse? rule start lines = some next) :
    settle rule start lines =
      ((settle rule start next).1,
        { (settle rule start next).2 with
          collapsed :=
            (settle rule start next).2.collapsed + 1 }) := by
  rw [settle]
  split
  · rename_i other hOther
    rw [hCollapse, Option.some.injEq] at hOther
    rw [hOther]
  · rename_i hNone
    rw [hCollapse] at hNone
    cases hNone

theorem settle_of_dropSurplus
    (hCollapse : collapse? rule start lines = none)
    (hDrop : dropSurplus? rule start lines = some next) :
    settle rule start lines =
      ((settle rule start next).1,
        { (settle rule start next).2 with
          dropped :=
            (settle rule start next).2.dropped + 1 }) := by
  rw [settle]
  split
  · rename_i other hOther
    rw [hCollapse] at hOther
    cases hOther
  · split
    · rename_i other hOther
      rw [hDrop, Option.some.injEq] at hOther
      rw [hOther]
    · rename_i hNone
      rw [hDrop] at hNone
      cases hNone

theorem settle_of_none
    (hCollapse : collapse? rule start lines = none)
    (hDrop : dropSurplus? rule start lines = none) :
    settle rule start lines = (lines, {}) := by
  rw [settle]
  split
  · rename_i other hOther
    rw [hCollapse] at hOther
    cases hOther
  · split
    · rename_i other hOther
      rw [hDrop] at hOther
      cases hOther
    · rfl

/-
  Induction along the steps of a repair: what a step carries
  over from the lines behind it to those in front of it, and
  what holds where no step applies, holds of every repair.
-/
theorem settle_induction
    {motive : Lines → Lines × Report → Prop}
    (collapse : ∀ lines next,
      collapse? rule start lines = some next →
      motive next (settle rule start next) →
      motive lines
        ((settle rule start next).1,
          { (settle rule start next).2 with
            collapsed :=
              (settle rule start next).2.collapsed + 1 }))
    (drop : ∀ lines next,
      collapse? rule start lines = none →
      dropSurplus? rule start lines = some next →
      motive next (settle rule start next) →
      motive lines
        ((settle rule start next).1,
          { (settle rule start next).2 with
            dropped :=
              (settle rule start next).2.dropped + 1 }))
    (done : ∀ lines,
      collapse? rule start lines = none →
      dropSurplus? rule start lines = none →
      motive lines (lines, {}))
    (lines : Lines) :
    motive lines (settle rule start lines) := by
  induction hLength : lines.length using
    Nat.strong_induction_on generalizing lines with
  | _ length ih =>
      subst hLength
      cases hStep : collapse? rule start lines with
      | some next =>
          rw [settle_of_collapse hStep]
          exact collapse lines next hStep
            (ih next.length (length_collapse?_lt hStep) next
              rfl)
      | none =>
          cases hOther : dropSurplus? rule start lines with
          | some next =>
              rw [settle_of_dropSurplus hStep hOther]
              exact drop lines next hStep hOther
                (ih next.length
                  (length_dropSurplus?_lt hOther) next rfl)
          | none =>
              rw [settle_of_none hStep hOther]
              exact done lines hStep hOther

/- What both kinds of steps keep is kept by all of them. -/
theorem settle_invariant
    (invariant : Lines → Prop)
    (hCollapse : ∀ before after,
      invariant before →
      collapse? rule start before = some after →
      invariant after)
    (hDrop : ∀ before after,
      invariant before →
      dropSurplus? rule start before = some after →
      invariant after)
    (hLines : invariant lines) :
    invariant (settle rule start lines).1 := by
  revert hLines
  apply settle_induction (motive := fun before result =>
    invariant before → invariant result.1)
  · intro before next hStep hNext hBefore
    exact hNext (hCollapse before next hBefore hStep)
  · intro before next _ hStep hNext hBefore
    exact hNext (hDrop before next hBefore hStep)
  · intro _ _ _ hBefore
    exact hBefore

/- Where settling ends, no step is left. -/
theorem settle_ends
    (rule : Rule)
    (start : Nat)
    (lines : Lines) :
    collapse? rule start (settle rule start lines).1 =
        none ∧
      dropSurplus? rule start (settle rule start lines).1 =
        none := by
  apply settle_induction (motive := fun _ result =>
    collapse? rule start result.1 = none ∧
      dropSurplus? rule start result.1 = none)
  · exact fun _ _ _ hNext => hNext
  · exact fun _ _ _ _ hNext => hNext
  · exact fun _ hCollapse hDrop => ⟨hCollapse, hDrop⟩

end Repair

end NotifyScope
