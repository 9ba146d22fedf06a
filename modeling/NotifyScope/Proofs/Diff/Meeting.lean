import NotifyScope.Diff.Search
import NotifyScope.Proofs.Diff.Furthest

/-
  Where the two searches for a short script meet.  A frontier
  holds how far a search has got on the diagonals, and a round
  of it ends where the other search has been already.  As the
  searches were apart before, they meet in the box.

  Key definitions include:
    * `Diff.Frontier.Before`
    * `Diff.sweep`
    * `Diff.Searching`

  Main declarations:
    * `Diff.sweep_cons_eq_inr`
    * `Diff.within_of_sweep`
    * `Diff.Searching.next`
    * `Diff.within_of_approach`
    * `Diff.within_of_split?`
-/

namespace NotifyScope

namespace Diff

variable {width height : Nat}
variable {snake other : Snake width height}
variable {right down right' down' : Nat}

------------------------------------------------------------
-- Frontiers
------------------------------------------------------------

namespace Frontier

/- Whether a frontier has room for all steps up to a number. -/
structure Spacious
    (frontier : Frontier)
    (steps : Nat) : Prop where
  below : steps < frontier.origin
  above : frontier.origin + steps < frontier.reached.size

theorem spacious_start
    {steps bound : Nat}
    (hSteps : steps ≤ bound) :
    (start bound).Spacious steps where
  below := Nat.lt_succ_of_le hSteps
  above := by
    simp only [start, Array.size_replicate]
    omega

theorem Spacious.mono
    {frontier : Frontier}
    {steps more : Nat}
    (hSpace : frontier.Spacious more)
    (hSteps : steps ≤ more) :
    frontier.Spacious steps where
  below := Nat.lt_of_le_of_lt hSteps hSpace.below
  above :=
    Nat.lt_of_le_of_lt (Nat.add_le_add_left hSteps _)
      hSpace.above

theorem spacious_set
    {frontier : Frontier}
    {steps : Nat}
    (hSpace : frontier.Spacious steps)
    (k : Int)
    (x : Nat) :
    (frontier.set k x).Spacious steps where
  below := hSpace.below
  above := by
    simpa [set] using hSpace.above

theorem get_set
    {frontier : Frontier}
    {steps : Nat}
    (hSpace : frontier.Spacious steps)
    {k other : Int}
    (hDiagonal : k.natAbs ≤ steps)
    (hOther : other.natAbs ≤ steps + 1)
    (x : Nat) :
    (frontier.set k x).get other =
      if other = k then x else frontier.get other := by
  obtain ⟨hBelow, hAbove⟩ := hSpace
  have hSame :
      (k + frontier.origin).toNat =
          (other + frontier.origin).toNat ↔
        other = k := by
    omega
  simp only [get, set, Array.getD_eq_getD_getElem?,
    Array.getElem?_setIfInBounds, hSame]
  split
  · rw [if_pos (by omega)]
    rfl
  · rfl

/-
  What a frontier holds before a round: how far the search
  has got in the round before, and so where it goes on.
-/
structure Before
    (frontier : Frontier)
    (snake : Snake width height)
    (steps : Nat) : Prop where
  enters :
    ∀ right down, right + down = steps →
      frontier.entry steps (right - down) =
        snake.enter right down
  holds :
    ∀ right down, right + down + 1 = steps →
      frontier.get (right - down) = snake.far right down

theorem get_start
    (bound : Nat)
    (k : Int) :
    (start bound).get k = 0 := by
  simp only [get, start, Array.getD_eq_getD_getElem?,
    Array.getElem?_replicate]
  split <;> rfl

theorem before_start
    (bound : Nat)
    (snake : Snake width height) :
    (start bound).Before snake 0 where
  enters right down hSteps := by
    obtain ⟨rfl, rfl⟩ : right = 0 ∧ down = 0 := by omega
    simp [entry, get_start, Snake.enter]
  holds right down hSteps := absurd hSteps (Nat.succ_ne_zero _)

/- From where a search got, it goes on in the next round. -/
theorem before_succ
    {frontier : Frontier}
    {steps : Nat}
    (hHolds :
      ∀ right down, right + down = steps →
        frontier.get (right - down) = snake.far right down) :
    frontier.Before snake (steps + 1) where
  holds right down hSteps :=
    hHolds right down (Nat.succ.inj hSteps)
  enters right down hSteps := by
    unfold entry
    cases right with
    | zero =>
        obtain rfl : down = steps + 1 := by omega
        have hDown := hHolds 0 steps (Nat.zero_add _)
        rw [if_pos (.inl (by simp))]
        simp only [Snake.enter]
        rw [← hDown]
        congr 1
        omega
    | succ right =>
        have hLeft := hHolds right down (by omega)
        rw [show ((right + 1 : Nat) : Int) - down - 1 =
          right - down by omega, hLeft]
        cases down with
        | zero =>
            rw [if_neg (by omega)]
            rfl
        | succ down =>
            have hDown := hHolds (right + 1) down (by omega)
            rw [show ((right + 1 : Nat) : Int) -
                (down + 1 : Nat) + 1 =
              (right + 1 : Nat) - down by omega, hDown]
            simp only [Snake.enter]
            split <;> omega

/- On the diagonals of a round, nothing of this changes. -/
theorem Before.set
    {frontier : Frontier}
    {steps : Nat}
    (hBefore : frontier.Before snake steps)
    (hSpace : frontier.Spacious steps)
    (hSteps : right + down = steps)
    (x : Nat) :
    (frontier.set (right - down) x).Before snake steps := by
  have hGet :
      ∀ other : Int, other.natAbs ≤ steps + 1 →
        other ≠ right - down →
          (frontier.set (right - down) x).get other =
            frontier.get other := by
    intro other hOther hNe
    rw [get_set hSpace (by omega) hOther, if_neg hNe]
  constructor
  · intro right' down' hSteps'
    rw [← hBefore.enters right' down' hSteps']
    unfold entry
    rw [hGet _ (by omega) (by omega),
      hGet _ (by omega) (by omega)]
  · intro right' down' hSteps'
    rw [hGet _ (by omega) (by omega)]
    exact hBefore.holds right' down' hSteps'

end Frontier

------------------------------------------------------------
-- Rounds
------------------------------------------------------------

/-
  One round of a search along diagonals.  It ends where the
  other search, which lags behind, has been already.
-/
def sweep
    (snake : Snake width height)
    (lag steps : Nat)
    (other : Frontier) :
    List Int → Frontier → Nat × Nat ⊕ Frontier
  | [], frontier => .inr frontier
  | k :: rest, frontier =>
      let x := frontier.entry steps k
      let y := ((x : Int) - k).toNat
      let next := frontier.set k (x + snake.length x y)
      let mirror := k - ((width : Int) - height)
      if ((width : Int) - height + lag) % 2 = 0 ∧
          mirror.natAbs + lag ≤ steps ∧
          width ≤ next.get k + other.get (-mirror) then
        .inl (x, y)
      else
        sweep snake lag steps other rest next

/- The other search has been on a diagonal if it could be. -/
theorem opposite_iff
    {lag steps : Nat}
    (hSteps : right + down = steps) :
    ((width : Int) - height + lag) % 2 = 0 ∧
        ((right : Int) - down - ((width : Int) - height)).natAbs +
          lag ≤ steps ↔
      ∃ right' down',
        right' + down' + lag = steps ∧
          Opposite width height right down right' down' := by
  unfold Opposite
  constructor
  · rintro ⟨hParity, hNear⟩
    refine ⟨((steps - lag +
        ((width : Int) - height) - (right - down)) / 2).toNat,
      ((steps - lag -
        ((width : Int) - height) + (right - down)) / 2).toNat,
      ?_, ?_⟩ <;> omega
  · rintro ⟨right', down', hSteps', hOpposite⟩
    omega

section Sweep

variable {lag steps : Nat}
variable {other' frontier : Frontier}
variable {diagonals : List Int}
variable (hSpace : frontier.Spacious steps)
variable (hBefore : frontier.Before snake steps)
include hSpace hBefore

/- A round can only end where both searches have been. -/
theorem exists_of_sweep_eq_inl
    {x y : Nat}
    (hDiagonals :
      ∀ k ∈ diagonals, ∃ right down : Nat,
        right + down = steps ∧ k = right - down)
    (hSweep :
      sweep snake lag steps other' diagonals frontier =
        .inl (x, y)) :
    ∃ right down right' down',
      right + down = steps ∧
        right' + down' + lag = steps ∧
        Opposite width height right down right' down' ∧
        x = snake.enter right down ∧
        y = snake.enter right down + down - right := by
  induction diagonals generalizing frontier with
  | nil => cases hSweep
  | cons k rest ih =>
      obtain ⟨hFirst, hLater⟩ :=
        List.forall_mem_cons.mp hDiagonals
      obtain ⟨right, down, hSteps, rfl⟩ := hFirst
      have hEnter := hBefore.enters right down hSteps
      unfold sweep at hSweep
      dsimp only at hSweep
      split at hSweep
      · rename_i hMeet
        obtain ⟨right', down', hSteps', hOpposite⟩ :=
          (opposite_iff hSteps).mp ⟨hMeet.1, hMeet.2.1⟩
        cases hSweep
        refine ⟨right, down, right', down', hSteps, hSteps',
          hOpposite, hEnter, ?_⟩
        rw [hEnter]
        omega
      · exact ih (Frontier.spacious_set hSpace _ _)
          (hBefore.set hSpace hSteps _) hLater hSweep

variable
  (hOther :
    ∀ right' down', right' + down' + lag = steps →
      other'.get (right' - down') = other.far right' down')
include hOther

/- A round only goes on if the searches are apart. -/
theorem sweep_cons_eq_inr
    {next : Frontier}
    (hSteps : right + down = steps)
    (hSweep :
      sweep snake lag steps other'
          (((right : Int) - down) :: diagonals) frontier =
        .inr next) :
    sweep snake lag steps other' diagonals
          (frontier.set (right - down)
            (snake.far right down)) = .inr next ∧
      ∀ right' down', right' + down' + lag = steps →
        Opposite width height right down right' down' →
          snake.far right down + other.far right' down' <
            width := by
  have hEnter := hBefore.enters right down hSteps
  have hY :
      ((snake.enter right down : Int) -
          ((right : Int) - down)).toNat =
        snake.enter right down + down - right := by
    omega
  unfold sweep at hSweep
  dsimp only at hSweep
  rw [hEnter, hY, ← snake.far_eq] at hSweep
  split at hSweep
  · cases hSweep
  · rename_i hApart
    refine ⟨hSweep, ?_⟩
    intro right' down' hSteps' hOpposite
    obtain ⟨hParity, hNear⟩ :=
      (opposite_iff hSteps).mpr
        ⟨right', down', hSteps', hOpposite⟩
    have hMirror :
        -(((right : Int) - down) -
            ((width : Int) - height)) =
          right' - down' := by
      unfold Opposite at hOpposite
      omega
    rw [Frontier.get_set hSpace (by omega) (by omega),
      if_pos rfl, hMirror, hOther _ _ hSteps'] at hApart
    exact Nat.lt_of_not_le fun hMeet =>
      hApart ⟨hParity, hNear, hMeet⟩

/-
  If it does not end, then the frontier holds how far the
  search has got, and the searches are still apart.
-/
theorem of_sweep_eq_inr
    {next : Frontier}
    (hDiagonals :
      ∀ k ∈ diagonals, ∃ right down : Nat,
        right + down = steps ∧ k = right - down)
    (hSweep :
      sweep snake lag steps other' diagonals frontier =
        .inr next) :
    next.origin = frontier.origin ∧
      next.reached.size = frontier.reached.size ∧
      ∀ right down, right + down = steps →
        if ((right : Int) - down) ∈ diagonals then
          next.get (right - down) = snake.far right down ∧
            ∀ right' down', right' + down' + lag = steps →
              Opposite width height right down right' down' →
                snake.far right down +
                  other.far right' down' < width
        else
          next.get (right - down) =
            frontier.get (right - down) := by
  induction diagonals generalizing frontier with
  | nil =>
      cases hSweep
      exact ⟨rfl, rfl, fun _ _ _ => rfl⟩
  | cons k rest ih =>
      obtain ⟨hFirst, hLater⟩ :=
        List.forall_mem_cons.mp hDiagonals
      obtain ⟨right, down, hSteps, rfl⟩ := hFirst
      obtain ⟨hSweep, hApart⟩ :=
        sweep_cons_eq_inr hSpace hBefore hOther hSteps hSweep
      obtain ⟨hOrigin, hSize, hRest⟩ :=
        ih (Frontier.spacious_set hSpace _ _)
          (hBefore.set hSpace hSteps _) hLater hSweep
      refine ⟨hOrigin, ?_, ?_⟩
      · rw [hSize]
        simp [Frontier.set]
      · intro right' down' hSteps'
        have hNext := hRest right' down' hSteps'
        rw [Frontier.get_set hSpace (by omega) (by omega)]
          at hNext
        by_cases hMem : ((right' : Int) - down') ∈ rest
        · rw [if_pos (List.mem_cons_of_mem _ hMem)]
          rwa [if_pos hMem] at hNext
        · rw [if_neg hMem] at hNext
          by_cases hSame : (right' : Int) - down' = right - down
          · obtain ⟨rfl, rfl⟩ :
                right' = right ∧ down' = down := by
              omega
            rw [if_pos List.mem_cons_self]
            rw [if_pos rfl] at hNext
            exact ⟨hNext, hApart⟩
          · rw [if_neg hSame] at hNext
            rwa [if_neg (by simp [hSame, hMem])]

end Sweep

------------------------------------------------------------
-- Boxes
------------------------------------------------------------

namespace Box

/- Whether a box lies in two texts. -/
structure Within
    (box : Box)
    (old new : Array Text) : Prop where
  old_le : box.oldStart ≤ box.oldStop
  new_le : box.newStart ≤ box.newStop
  old_size : box.oldStop ≤ old.size
  new_size : box.newStop ≤ new.size

variable (old new : Array Text)
variable (box : Box)

/- The common lines that the forward search goes along. -/
def ahead : Snake box.width box.height where
  length := box.prefixFrom old new
  length_le_width _ _ :=
    Nat.le_trans (prefixLength_le _ _ _ _ _)
      (Nat.min_le_left _ _)
  length_le_height _ _ :=
    Nat.le_trans (prefixLength_le _ _ _ _ _)
      (Nat.min_le_right _ _)

/- The common lines that the backward search goes along. -/
def behind : Snake box.width box.height where
  length := box.suffixFrom old new
  length_le_width _ _ :=
    Nat.le_trans (suffixLength_le _ _ _ _ _)
      (Nat.min_le_left _ _)
  length_le_height _ _ :=
    Nat.le_trans (suffixLength_le _ _ _ _ _)
      (Nat.min_le_right _ _)

end Box

variable {old new : Array Text}
variable {box : Box}

/- A forward round is a round with a lag of one step. -/
theorem forward_eq
    (steps : Nat)
    (other : Frontier)
    (diagonals : List Int)
    (frontier : Frontier) :
    forward old new box steps other diagonals frontier =
      match
        sweep (box.ahead old new) 1 steps other diagonals
          frontier with
      | .inl (x, y) =>
          .met (box.oldStart + x) (box.newStart + y)
      | .inr next => .apart next := by
  induction diagonals generalizing frontier with
  | nil => rfl
  | cons k rest ih =>
      have hParity :
          ((box.width : Int) - box.height) % 2 = 1 ↔
            ((box.width : Int) - box.height + (1 : Nat)) % 2 =
              0 := by
        omega
      unfold forward sweep
      dsimp only [Box.delta, Box.ahead]
      simp only [hParity]
      split
      · rfl
      · exact ih _

/- A backward round has no lag. -/
theorem backward_eq
    (steps : Nat)
    (other : Frontier)
    (diagonals : List Int)
    (frontier : Frontier) :
    backward old new box steps other diagonals frontier =
      match
        sweep (box.behind old new) 0 steps other diagonals
          frontier with
      | .inl (x, y) =>
          .met
            (box.oldStop -
              (x + (box.behind old new).length x y))
            (box.newStop -
              (y + (box.behind old new).length x y))
      | .inr next => .apart next := by
  induction diagonals generalizing frontier with
  | nil => rfl
  | cons k rest ih =>
      have hParity :
          ((box.width : Int) - box.height) % 2 = 0 ↔
            ((box.width : Int) - box.height + (0 : Nat)) % 2 =
              0 := by
        omega
      unfold backward sweep
      dsimp only [Box.delta, Box.behind]
      simp only [hParity, Nat.add_zero]
      split
      · rfl
      · exact ih _

theorem exists_of_mem_diagonals
    {steps : Nat}
    {k : Int}
    (hMem : k ∈ diagonals steps) :
    ∃ right down : Nat,
      right + down = steps ∧ k = right - down := by
  obtain ⟨down, hDown, rfl⟩ := List.mem_map.mp hMem
  rw [List.mem_range] at hDown
  exact ⟨steps - down, down, by omega, by omega⟩

theorem mem_diagonals
    {steps : Nat}
    (hSteps : right + down = steps) :
    ((right : Int) - down) ∈ diagonals steps :=
  List.mem_map.mpr
    ⟨down, List.mem_range.mpr (by omega), by omega⟩

------------------------------------------------------------
-- Meeting
------------------------------------------------------------

/- What holds before a round of the two searches. -/
structure Searching
    (old new : Array Text)
    (box : Box)
    (rounds steps : Nat)
    (ahead behind : Frontier) : Prop where
  aheadSpace : ahead.Spacious (steps + rounds)
  behindSpace : behind.Spacious (steps + rounds)
  aheadBefore : ahead.Before (box.ahead old new) steps
  behindBefore : behind.Before (box.behind old new) steps
  apart :
    ∀ done, done + 1 = steps →
      Apart (box.ahead old new) (box.behind old new) done done
  apartBefore :
    ∀ done, done + 2 = steps →
      Apart (box.ahead old new) (box.behind old new)
        (done + 1) done

/-
  A round that does not end holds how far its search has got,
  and the searches are apart.
-/
theorem of_sweep_diagonals
    {snake other : Snake width height}
    {lag steps : Nat}
    {frontier behind next : Frontier}
    (hSpace : frontier.Spacious steps)
    (hBefore : frontier.Before snake steps)
    (hOther :
      ∀ right' down', right' + down' + lag = steps →
        behind.get (right' - down') = other.far right' down')
    (hSweep :
      sweep snake lag steps behind (diagonals steps) frontier =
        .inr next) :
    (∀ more, frontier.Spacious more → next.Spacious more) ∧
      (∀ right down, right + down = steps →
        next.get (right - down) = snake.far right down) ∧
      ∀ done, done + lag = steps →
        Apart snake other steps done := by
  obtain ⟨hOrigin, hSize, hNext⟩ :=
    of_sweep_eq_inr hSpace hBefore hOther
      (fun _ => exists_of_mem_diagonals) hSweep
  refine ⟨?_, ?_, ?_⟩
  · rintro more ⟨hBelow, hAbove⟩
    exact ⟨hOrigin ▸ hBelow, hOrigin ▸ hSize ▸ hAbove⟩
  · intro right down hSteps
    have hHere := hNext right down hSteps
    rw [if_pos (mem_diagonals hSteps)] at hHere
    exact hHere.1
  · intro done hDone right down right' down' hSteps hSteps'
      hOpposite
    have hHere := hNext right down hSteps
    rw [if_pos (mem_diagonals hSteps)] at hHere
    exact hHere.2 right' down' (hSteps' ▸ hDone) hOpposite

/-
  A round ends in the box if the searches were still apart
  one step earlier.
-/
theorem within_of_sweep
    {snake other : Snake width height}
    {lag steps x y : Nat}
    {frontier behind : Frontier}
    (hSpace : frontier.Spacious steps)
    (hBefore : frontier.Before snake steps)
    (hLag : lag ≤ 1)
    (hApart :
      ∀ done done',
        done + 1 = steps → done' + 1 + lag = steps →
          Apart snake other done done')
    (hSweep :
      sweep snake lag steps behind (diagonals steps) frontier =
        .inl (x, y)) :
    x + snake.length x y ≤ width ∧
      y + snake.length x y ≤ height := by
  obtain ⟨right, down, right', down', hSteps, hSteps',
    hOpposite, rfl, rfl⟩ :=
    exists_of_sweep_eq_inl hSpace hBefore
      (fun _ => exists_of_mem_diagonals) hSweep
  obtain ⟨hWidth, hHeight⟩ :=
    Apart.within
      (fun done done' hDone hDone' =>
        hApart done done' (by omega) (by omega))
      hOpposite (by omega)
  have hEnter := snake.right_le_enter right down
  rw [snake.far_eq] at hWidth hHeight
  omega

/- Two rounds that do not end are one step of the searches. -/
theorem Searching.next
    {rounds steps : Nat}
    {ahead behind aheadNext behindNext : Frontier}
    (hSearching :
      Searching old new box (rounds + 1) steps ahead behind)
    (hForward :
      sweep (box.ahead old new) 1 steps behind
          (diagonals steps) ahead = .inr aheadNext)
    (hBackward :
      sweep (box.behind old new) 0 steps aheadNext
          (diagonals steps) behind = .inr behindNext) :
    Searching old new box rounds (steps + 1) aheadNext
      behindNext := by
  obtain ⟨hAheadSpace, hBehindSpace, hAhead, hBehind, -, -⟩ :=
    hSearching
  have hSteps : steps ≤ steps + (rounds + 1) :=
    Nat.le_add_right _ _
  obtain ⟨hAheadSpace', hAheadNext, hLag⟩ :=
    of_sweep_diagonals (hAheadSpace.mono hSteps) hAhead
      hBehind.holds hForward
  obtain ⟨hBehindSpace', hBehindNext, hNow⟩ :=
    of_sweep_diagonals (hBehindSpace.mono hSteps) hBehind
      hAheadNext hBackward
  exact
    { aheadSpace :=
        (hAheadSpace' _ hAheadSpace).mono (by omega)
      behindSpace :=
        (hBehindSpace' _ hBehindSpace).mono (by omega)
      aheadBefore := Frontier.before_succ hAheadNext
      behindBefore := Frontier.before_succ hBehindNext
      apart := by
        intro done hDone
        obtain rfl := Nat.succ.inj hDone
        exact (hNow done rfl).symm
      apartBefore := by
        intro done hDone
        obtain rfl : done + 1 = steps := by omega
        exact hLag done rfl }

/- The searches meet in the box. -/
theorem within_of_approach
    (hWithin : box.Within old new)
    {rounds steps x y : Nat}
    {ahead behind : Frontier}
    (hSearching :
      Searching old new box rounds steps ahead behind)
    (hApproach :
      approach old new box rounds steps ahead behind =
        some (x, y)) :
    box.oldStart ≤ x ∧ x ≤ box.oldStop ∧
      box.newStart ≤ y ∧ y ≤ box.newStop := by
  have hWidth : box.oldStart + box.width = box.oldStop :=
    Nat.add_sub_cancel' hWithin.old_le
  have hHeight : box.newStart + box.height = box.newStop :=
    Nat.add_sub_cancel' hWithin.new_le
  induction rounds generalizing steps ahead behind with
  | zero => cases hApproach
  | succ rounds ih =>
      have hSteps : steps ≤ steps + (rounds + 1) :=
        Nat.le_add_right _ _
      unfold approach at hApproach
      rw [forward_eq] at hApproach
      cases hForward :
          sweep (box.ahead old new) 1 steps behind
            (diagonals steps) ahead with
      | inl met =>
          rw [hForward] at hApproach
          cases hApproach
          have hMet :=
            within_of_sweep
              (hSearching.aheadSpace.mono hSteps)
              hSearching.aheadBefore (Nat.le_refl 1)
              (by
                intro done done' hDone hDone'
                obtain rfl : done = done' + 1 := by omega
                exact hSearching.apartBefore done' hDone')
              hForward
          omega
      | inr aheadNext =>
          rw [hForward] at hApproach
          dsimp only at hApproach
          rw [backward_eq] at hApproach
          cases hBackward :
              sweep (box.behind old new) 0 steps aheadNext
                (diagonals steps) behind with
          | inl met =>
              rw [hBackward] at hApproach
              cases hApproach
              have hMet :=
                within_of_sweep
                  (hSearching.behindSpace.mono hSteps)
                  hSearching.behindBefore (Nat.zero_le 1)
                  (by
                    intro done done' hDone hDone'
                    obtain rfl : done = done' := by omega
                    exact (hSearching.apart done hDone).symm)
                  hBackward
              omega
          | inr behindNext =>
              rw [hBackward] at hApproach
              exact ih (hSearching.next hForward hBackward)
                hApproach

/- So a box is split at a position in it. -/
theorem within_of_split?
    (hWithin : box.Within old new)
    {x y : Nat}
    (hSplit : split? old new box = some (x, y)) :
    box.oldStart ≤ x ∧ x ≤ box.oldStop ∧
      box.newStart ≤ y ∧ y ≤ box.newStop := by
  refine within_of_approach hWithin ?_ hSplit
  exact
    { aheadSpace := Frontier.spacious_start (by omega)
      behindSpace := Frontier.spacious_start (by omega)
      aheadBefore := Frontier.before_start _ _
      behindBefore := Frontier.before_start _ _
      apart := fun done hDone =>
        absurd hDone (Nat.succ_ne_zero done)
      apartBefore := fun done hDone =>
        absurd hDone (Nat.succ_ne_zero (done + 1)) }

end Diff

end NotifyScope
