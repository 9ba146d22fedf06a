import NotifyScope.Proofs.Wrapper.Steps

/-
  Stretches of lines that the searches cannot tell apart.  A
  search that starts in one of two such stretches and ends in
  it finds the same in the other, whatever lines are around
  the two.

  Key definitions include:
    * `Rule.Alike`
    * `Lines.Window`

  Main declarations:
    * `Lines.Window.close?`
    * `Lines.Window.stackedAt?`
-/

------------------------------------------------------------
-- Lines
------------------------------------------------------------

namespace NotifyScope

namespace Rule

/-
  Lines that are the same to the searches for blocks and for
  wrappers.  The two forms of a closing line count as one.
-/
structure Alike
    (rule : Rule)
    (left right : Line) : Prop where
  blank : Text.allBlank left = Text.allBlank right
  balance :
    Line.braceBalance left = Line.braceBalance right
  opens : rule.opensWrapper left = rule.opensWrapper right
  closes : rule.closesEither left = rule.closesEither right

namespace Alike

variable {rule : Rule} {left right : Line}

theorem refl
    (line : Line) :
    rule.Alike line line :=
  ⟨rfl, rfl, rfl, rfl⟩

theorem symm
    (hAlike : rule.Alike left right) :
    rule.Alike right left :=
  ⟨hAlike.blank.symm, hAlike.balance.symm,
    hAlike.opens.symm, hAlike.closes.symm⟩

theorem trans
    {other : Line}
    (hAlike : rule.Alike left right)
    (hOther : rule.Alike right other) :
    rule.Alike left other :=
  ⟨hAlike.blank.trans hOther.blank,
    hAlike.balance.trans hOther.balance,
    hAlike.opens.trans hOther.opens,
    hAlike.closes.trans hOther.closes⟩

/- White space around a line makes no difference. -/
theorem of_trim_eq
    (hTrim : Text.trim left = Text.trim right) :
    rule.Alike left right := by
  constructor
  · exact Text.allBlank_eq_of_trim_eq hTrim
  · exact Line.braceBalance_eq_of_trim_eq hTrim
  · unfold opensWrapper
    rw [hTrim]
  · unfold closesEither closesWrapper closesAnnotated
    rw [hTrim]

/- Closing lines of either form are the same. -/
theorem of_closesEither
    (hLeft : rule.closesEither left = true)
    (hRight : rule.closesEither right = true) :
    rule.Alike left right := by
  have hClosing :
      ∀ line, rule.closesEither line = true →
        Text.allBlank line = false ∧
          rule.opensWrapper line = false := by
    intro line hLine
    have hBalance := braceBalance_of_closesEither hLine
    constructor
    · apply Line.not_allBlank_of_braceBalance_ne
      rw [hBalance]
      decide
    · cases hOpens : rule.opensWrapper line with
      | false => rfl
      | true =>
          rw [braceBalance_of_opensWrapper hOpens]
            at hBalance
          cases hBalance
  constructor
  · rw [(hClosing left hLeft).1, (hClosing right hRight).1]
  · rw [braceBalance_of_closesEither hLeft,
      braceBalance_of_closesEither hRight]
  · rw [(hClosing left hLeft).2, (hClosing right hRight).2]
  · rw [hLeft, hRight]

end Alike

end Rule

------------------------------------------------------------
-- Stretches of Lines
------------------------------------------------------------

namespace Lines

/-
  The `n` lines from `a` on in one list are, one by one, like
  those from `b` on in another.
-/
def Window
    (rule : Rule)
    (left : Lines)
    (a : Nat)
    (right : Lines)
    (b n : Nat) : Prop :=
  ∀ i, i < n →
    rule.Alike (get left (a + i)) (get right (b + i))

namespace Window

variable {rule : Rule}
variable {left right : Lines}
variable {a b n : Nat}

theorem symm
    (hWindow : Window rule left a right b n) :
    Window rule right b left a n :=
  fun i hi => (hWindow i hi).symm

theorem depth
    (hWindow : Window rule left a right b n)
    {i j : Nat}
    (hLe : i ≤ j)
    (hLast : j ≤ n) :
    Lines.depth left (a + j) - Lines.depth left (a + i) =
      Lines.depth right (b + j) -
        Lines.depth right (b + i) := by
  induction j, hLe using Nat.le_induction with
  | base => omega
  | succ j hLe ih =>
      have hBefore := ih (by omega)
      have hLine := (hWindow j (by omega)).balance
      rw [← Nat.add_assoc, ← Nat.add_assoc, depth_succ,
        depth_succ]
      omega

theorem close?
    (hWindow : Window rule left a right b n)
    {i j : Nat}
    (hLast : j < n)
    (hClose : Block.close? left (a + i) = some (a + j)) :
    Block.close? right (b + i) = some (b + j) := by
  rcases Block.close?_eq_some_iff.mp hClose with
    ⟨hLess, hEnd, hOpen⟩
  have hWhole :=
    hWindow.depth (i := i + 1) (j := j + 1) (by omega)
      (by omega)
  rw [Block.close?_eq_some_iff]
  refine ⟨by omega, ?_, ?_⟩
  · rw [show b + j + 1 = b + (j + 1) by omega,
      show b + i + 1 = b + (i + 1) by omega]
    rw [show a + j + 1 = a + (j + 1) by omega,
      show a + i + 1 = a + (i + 1) by omega] at hEnd
    omega
  · intro k hStart hStop
    obtain ⟨m, rfl⟩ :=
      Nat.exists_eq_add_of_le (show b ≤ k by omega)
    have hPart :=
      hWindow.depth (i := i + 1) (j := m) (by omega)
        (by omega)
    have hInside := hOpen (a + m) (by omega) (by omega)
    rw [show b + i + 1 = b + (i + 1) by omega]
    rw [show a + i + 1 = a + (i + 1) by omega] at hInside
    omega

theorem nextFilled?
    (hWindow : Window rule left a right b n)
    {i j : Nat}
    (hLast : j < n)
    (hNext :
      Lines.nextFilled? left (a + i) = some (a + j)) :
    Lines.nextFilled? right (b + i) = some (b + j) := by
  rcases nextFilled?_eq_some_iff.mp hNext with
    ⟨hLe, hFilled, hBlank⟩
  rw [nextFilled?_eq_some_iff]
  refine ⟨by omega, ?_, ?_⟩
  · rw [← (hWindow j hLast).blank]
    exact hFilled
  · intro k hStart hStop
    obtain ⟨m, rfl⟩ :=
      Nat.exists_eq_add_of_le (show b ≤ k by omega)
    rw [← (hWindow m (by omega)).blank]
    exact hBlank (a + m) (by omega) (by omega)

theorem lastFilled?
    (hWindow : Window rule left a right b n)
    {i j k : Nat}
    (hStop : j ≤ n)
    (hLast :
      Lines.lastFilled? left (a + i) (a + j) =
        some (a + k)) :
    Lines.lastFilled? right (b + i) (b + j) =
      some (b + k) := by
  rcases lastFilled?_eq_some_iff.mp hLast with
    ⟨hLe, hLess, hFilled, hBlank⟩
  rw [lastFilled?_eq_some_iff]
  refine ⟨by omega, by omega, ?_, ?_⟩
  · rw [← (hWindow k (by omega)).blank]
    exact hFilled
  · intro l hl hlStop
    obtain ⟨m, rfl⟩ :=
      Nat.exists_eq_add_of_le (show b ≤ l by omega)
    rw [← (hWindow m (by omega)).blank]
    exact hBlank (a + m) (by omega) (by omega)

end Window

end Lines

------------------------------------------------------------
-- Stacked Wrappers
------------------------------------------------------------

namespace Wrapper

variable {rule : Rule} {lines : Lines}

/- A pair of wrappers with its lines `n` further down. -/
def StackedPair.shift
    (pair : StackedPair)
    (n : Nat) : StackedPair :=
  { innerOpen := n + pair.innerOpen
    innerClose := n + pair.innerClose
    outerClose := n + pair.outerClose }

/- The lines of a pair stand in the order of nesting. -/
theorem order_of_stackedAt?
    {i : Nat}
    {pair : StackedPair}
    (hStacked : stackedAt? rule lines i = some pair) :
    i < pair.innerOpen ∧
      pair.innerOpen < pair.innerClose ∧
      pair.innerClose < pair.outerClose := by
  rcases stackedAt?_eq_some_iff.mp hStacked with
    ⟨_, hInner, _, _, hClose, hNext, _⟩
  exact ⟨Lines.le_nextFilled? hInner,
    Block.lt_close? hClose, Lines.le_nextFilled? hNext⟩

/- The lines of a pair, counted from a line in front. -/
theorem exists_shift_of_stackedAt?
    {a i : Nat}
    {pair : StackedPair}
    (hStacked : stackedAt? rule lines i = some pair)
    (hLe : a ≤ i) :
    ∃ part : StackedPair, pair = part.shift a := by
  rcases order_of_stackedAt? hStacked with
    ⟨hOpen, hClose, hOuter⟩
  refine ⟨⟨pair.innerOpen - a, pair.innerClose - a,
    pair.outerClose - a⟩, ?_⟩
  unfold StackedPair.shift
  simp only
  rw [Nat.add_sub_cancel' (by omega),
    Nat.add_sub_cancel' (by omega),
    Nat.add_sub_cancel' (by omega)]

/-
  A pair of wrappers in a method ends in front of the line
  that closes the method.
-/
theorem outerClose_lt
    {start stop first : Nat}
    {pair : StackedPair}
    (hClose : Block.close? lines start = some stop)
    (hStacked : stackedAt? rule lines first = some pair)
    (hStart : start < first)
    (hStop : first < stop) :
    pair.outerClose < stop := by
  rcases stackedAt?_eq_some_iff.mp hStacked with
    ⟨hOpens, _, _, hOuter, _⟩
  have hLe :=
    Block.le_of_close?_inside hClose hOuter hStart hStop
  rcases Block.close?_eq_some_iff.mp hClose with
    ⟨_, hEnd, hInside⟩
  rcases Block.close?_eq_some_iff.mp hOuter with
    ⟨_, hOuterEnd, _⟩
  have hFirst := Lines.depth_succ lines first
  rw [Rule.braceBalance_of_opensWrapper hOpens] at hFirst
  have hBefore := hInside first hStart hStop.le
  by_contra hNot
  rw [show pair.outerClose = stop by omega] at hOuterEnd
  omega

end Wrapper

namespace Lines

namespace Window

variable {rule : Rule}
variable {left right : Lines}
variable {a b n : Nat}

theorem stackedAt?
    (hWindow : Window rule left a right b n)
    {i : Nat}
    {pair : Wrapper.StackedPair}
    (hLast : pair.outerClose < n)
    (hStacked :
      Wrapper.stackedAt? rule left (a + i) =
        some (pair.shift a)) :
    Wrapper.stackedAt? rule right (b + i) =
      some (pair.shift b) := by
  rcases Wrapper.order_of_stackedAt? hStacked with
    ⟨hFirst, hSecond, hThird⟩
  simp only [Wrapper.StackedPair.shift]
    at hFirst hSecond hThird
  rcases Wrapper.stackedAt?_eq_some_iff.mp hStacked with
    ⟨hOpens, hInner, hInnerOpens, hOuter, hClose, hNext,
      hInnerCloses, hOuterCloses⟩
  simp only [Wrapper.StackedPair.shift, Nat.add_assoc]
    at hInner hInnerOpens hOuter hClose
  simp only [Wrapper.StackedPair.shift, Nat.add_assoc]
    at hNext hInnerCloses hOuterCloses
  rw [Wrapper.stackedAt?_eq_some_iff]
  simp only [Wrapper.StackedPair.shift, Nat.add_assoc]
  refine ⟨?_, ?_, ?_, ?_, ?_, ?_, ?_, ?_⟩
  · rw [← (hWindow i (by omega)).opens]
    exact hOpens
  · exact hWindow.nextFilled? (by omega) hInner
  · rw [← (hWindow pair.innerOpen (by omega)).opens]
    exact hInnerOpens
  · exact hWindow.close? hLast hOuter
  · exact hWindow.close? (by omega) hClose
  · exact hWindow.nextFilled? hLast hNext
  · rw [← (hWindow pair.innerClose (by omega)).closes]
    exact hInnerCloses
  · rw [← (hWindow pair.outerClose hLast).closes]
    exact hOuterCloses

end Window

end Lines

end NotifyScope
