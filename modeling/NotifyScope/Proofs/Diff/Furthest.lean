/-
  How far a search gets in a box.  It goes on from where it
  was to the right or downwards, and then along a snake, which
  ends where the box does.  So a search that has left the box
  has been at its edge before, on a diagonal that is nearer to
  the opposite corner, and a search that comes from there has
  met it.

  Key definitions include:
    * `Diff.Snake`
    * `Diff.Snake.far`
    * `Diff.Opposite`
    * `Diff.Apart`

  Main declarations:
    * `Diff.Snake.exists_left_of_far`
    * `Diff.Snake.exists_above_of_far`
    * `Diff.Apart.within`
-/

namespace NotifyScope

namespace Diff

------------------------------------------------------------
-- Furthest Positions
------------------------------------------------------------

/-
  How far a search may go on along a diagonal, in a box of a
  width and a height.
-/
structure Snake (width height : Nat) where
  length : (x y : Nat) → Nat
  length_le_width : ∀ x y, length x y ≤ width - x
  length_le_height : ∀ x y, length x y ≤ height - y

namespace Snake

variable {width height : Nat}

/-
  How far right a search gets with a number of steps to the
  right and downwards, the snakes aside.
-/
def far
    (snake : Snake width height) : (right down : Nat) → Nat
  | 0, 0 => snake.length 0 0
  | 0, down + 1 =>
      let x := snake.far 0 down
      x + snake.length x (x + down + 1)
  | right + 1, 0 =>
      let x := snake.far right 0 + 1
      x + snake.length x (x - (right + 1))
  | right + 1, down + 1 =>
      let x := max (snake.far (right + 1) down)
        (snake.far right (down + 1) + 1)
      x + snake.length x (x + down - right)

/- Where it enters the last snake. -/
def enter
    (snake : Snake width height) : (right down : Nat) → Nat
  | 0, 0 => 0
  | 0, down + 1 => snake.far 0 down
  | right + 1, 0 => snake.far right 0 + 1
  | right + 1, down + 1 =>
      max (snake.far (right + 1) down)
        (snake.far right (down + 1) + 1)

variable (snake : Snake width height)

theorem far_eq
    (right down : Nat) :
    snake.far right down =
      snake.enter right down +
        snake.length (snake.enter right down)
          (snake.enter right down + down - right) := by
  cases right with
  | zero =>
      cases down with
      | zero => simp [far, enter]
      | succ down => simp [far, enter, Nat.add_assoc]
  | succ right =>
      cases down with
      | zero => simp [far, enter]
      | succ down =>
          simp only [far, enter]
          congr 2
          omega

theorem enter_le_far
    (right down : Nat) :
    snake.enter right down ≤ snake.far right down := by
  rw [far_eq]
  exact Nat.le_add_right _ _

/- A search does not go back to the left. -/
theorem far_le_far_down
    (right down : Nat) :
    snake.far right down ≤ snake.far right (down + 1) := by
  refine Nat.le_trans ?_ (snake.enter_le_far _ _)
  cases right with
  | zero => exact Nat.le_refl _
  | succ right => exact Nat.le_max_left _ _

/- It gets on with each step to the right. -/
theorem far_lt_far_right
    (right down : Nat) :
    snake.far right down < snake.far (right + 1) down := by
  refine Nat.lt_of_lt_of_le ?_ (snake.enter_le_far _ _)
  cases down with
  | zero => exact Nat.lt_succ_self _
  | succ down => exact Nat.le_max_right _ _

theorem right_le_far
    (right down : Nat) :
    right ≤ snake.far right down := by
  induction right with
  | zero => exact Nat.zero_le _
  | succ right ih =>
      exact Nat.lt_of_le_of_lt ih
        (snake.far_lt_far_right right down)

theorem right_le_enter
    (right down : Nat) :
    right ≤ snake.enter right down := by
  cases right with
  | zero => exact Nat.zero_le _
  | succ right =>
      have hFar := snake.right_le_far right
      cases down with
      | zero => exact Nat.succ_le_succ (hFar 0)
      | succ down =>
          exact Nat.le_trans
            (Nat.succ_le_succ (hFar (down + 1)))
            (Nat.le_max_right _ _)

/- Outside of the box there are no snakes. -/
theorem far_eq_enter_of_width_lt
    {right down : Nat}
    (hFar : width < snake.far right down) :
    snake.far right down = snake.enter right down := by
  rw [far_eq] at hFar ⊢
  have hLength :=
    snake.length_le_width (snake.enter right down)
      (snake.enter right down + down - right)
  omega

theorem far_eq_enter_of_height_lt
    {right down : Nat}
    (hFar : height + right < snake.far right down + down) :
    snake.far right down = snake.enter right down := by
  rw [far_eq] at hFar ⊢
  have hLength :=
    snake.length_le_height (snake.enter right down)
      (snake.enter right down + down - right)
  omega

/-
  A search that is to the right of the box comes from the
  left, from a diagonal that it is followed back along.
-/
theorem exists_left_of_far
    {right down : Nat}
    (hFar : width < snake.far right down) :
    ∃ left, right = left + 1 ∧
      snake.far right down ≤ snake.far left down + 1 := by
  induction down generalizing right with
  | zero =>
      have hEnter := snake.far_eq_enter_of_width_lt hFar
      cases right with
      | zero =>
          rw [hEnter] at hFar
          exact absurd hFar (Nat.not_lt_zero _)
      | succ left => exact ⟨left, rfl, Nat.le_of_eq hEnter⟩
  | succ down ih =>
      have hEnter := snake.far_eq_enter_of_width_lt hFar
      cases right with
      | zero =>
          rw [hEnter] at hFar
          obtain ⟨left, hLeft, -⟩ := ih hFar
          exact absurd hLeft (Nat.succ_ne_zero left).symm
      | succ left =>
          refine ⟨left, rfl, ?_⟩
          rw [hEnter] at hFar ⊢
          simp only [enter] at hFar ⊢
          by_cases hAbove :
              width < snake.far (left + 1) down
          · obtain ⟨before, hBefore, hLe⟩ := ih hAbove
            obtain rfl := Nat.succ.inj hBefore
            have hDown := snake.far_le_far_down left down
            omega
          · omega

/-
  A search that is below the box comes from above, where it
  was as far to the right.
-/
theorem exists_above_of_far
    {right down : Nat}
    (hFar : height + right < snake.far right down + down) :
    ∃ above, down = above + 1 ∧
      snake.far right down ≤ snake.far right above := by
  induction right generalizing down with
  | zero =>
      have hEnter := snake.far_eq_enter_of_height_lt hFar
      cases down with
      | zero =>
          rw [hEnter] at hFar
          exact absurd hFar (Nat.not_lt_zero _)
      | succ above => exact ⟨above, rfl, Nat.le_of_eq hEnter⟩
  | succ right ih =>
      have hEnter := snake.far_eq_enter_of_height_lt hFar
      cases down with
      | zero =>
          rw [hEnter] at hFar
          simp only [enter] at hFar
          have hLeft :
              height + right < snake.far right 0 + 0 := by
            omega
          obtain ⟨above, hAbove, -⟩ := ih hLeft
          exact absurd hAbove (Nat.succ_ne_zero above).symm
      | succ above =>
          refine ⟨above, rfl, ?_⟩
          rw [hEnter] at hFar ⊢
          simp only [enter] at hFar ⊢
          by_cases hLeft :
              height + right <
                snake.far right (above + 1) + (above + 1)
          · obtain ⟨before, hBefore, hLe⟩ := ih hLeft
            obtain rfl := Nat.succ.inj hBefore
            have hRight := snake.far_lt_far_right right above
            omega
          · omega

end Snake

------------------------------------------------------------
-- Two Searches
------------------------------------------------------------

/-
  Whether a search is on the same diagonal as another one that
  comes from the opposite corner of a box.
-/
def Opposite
    (width height : Nat)
    (right down right' down' : Nat) : Prop :=
  right + right' + height = down + down' + width

/-
  Whether two searches from opposite corners have not met
  after so many steps.
-/
def Apart
    {width height : Nat}
    (snake other : Snake width height)
    (steps steps' : Nat) : Prop :=
  ∀ right down right' down',
    right + down = steps →
    right' + down' = steps' →
    Opposite width height right down right' down' →
      snake.far right down + other.far right' down' < width

variable {width height : Nat}
variable {snake other : Snake width height}
variable {right down right' down' : Nat}

theorem Opposite.symm
    (hOpposite : Opposite width height right down right' down') :
    Opposite width height right' down' right down := by
  unfold Opposite at hOpposite ⊢
  omega

theorem Apart.symm
    {steps steps' : Nat}
    (hApart : Apart snake other steps steps') :
    Apart other snake steps' steps := by
  intro right down right' down' hSteps hSteps' hOpposite
  rw [Nat.add_comm]
  exact hApart right' down' right down hSteps' hSteps
    hOpposite.symm

/-
  A search that can meet the other one is in the box if they
  were still apart one step earlier.
-/
theorem Apart.within
    (hApart :
      ∀ steps steps',
        steps + 1 = right + down →
        steps' + 1 = right' + down' →
          Apart snake other steps steps')
    (hOpposite : Opposite width height right down right' down')
    (hSteps : right + down ≤ right' + down' + 1) :
    snake.far right down ≤ width ∧
      snake.far right down + down ≤ height + right := by
  unfold Opposite at hOpposite
  have hWidth : snake.far right down ≤ width := by
    refine Nat.le_of_not_lt fun hFar => ?_
    obtain ⟨left, rfl, hLeft⟩ :=
      snake.exists_left_of_far hFar
    cases down' with
    | succ above' =>
        have hLess :=
          hApart (left + down) (right' + above') (by omega)
            (by omega) left down right' above' rfl rfl
            (by unfold Opposite; omega)
        omega
    | zero =>
        -- The box has no rows left below this diagonal.
        have hBelow :
            height + (left + 1) <
              snake.far (left + 1) down + down := by
          omega
        obtain ⟨above, rfl, hAbove⟩ :=
          snake.exists_above_of_far hBelow
        have hLess :=
          hApart (left + 1 + above) (right' - 1) (by omega)
            (by omega) (left + 1) above (right' - 1) 0 rfl
            rfl (by unfold Opposite; omega)
        omega
  refine ⟨hWidth, Nat.le_of_not_lt fun hFar => ?_⟩
  obtain ⟨above, rfl, hAbove⟩ := snake.exists_above_of_far hFar
  cases right' with
  | zero => omega
  | succ left' =>
      have hLess :=
        hApart (right + above) (left' + down') (by omega)
          (by omega) right above left' down' rfl rfl
          (by unfold Opposite; omega)
      have hOther := other.right_le_far left' down'
      omega

end Diff

end NotifyScope
