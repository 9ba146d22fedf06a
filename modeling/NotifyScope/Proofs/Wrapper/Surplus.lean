import NotifyScope.Proofs.Method.Canonical
import NotifyScope.Proofs.Rule.Standard

/-
  Where a method closes after a repair.  A collapsed pair of
  wrappers cancels out, but each closing line that is dropped
  leaves one more block open.  So the method closes again on
  the line, if there is one, that closed as many blocks more
  before, and a repair that finds no such line below leaves
  the method without an end.

  Key definitions include:
    * `Block.closeOuter?`

  Main declarations:
    * `Block.closeOuter?_eq_some_iff`
    * `Repair.closeOuter?_collapse?`
    * `Repair.closeOuter?_dropSurplus?`
    * `Repair.close?_settle`
    * `Method.closes_repair_iff`
-/

namespace NotifyScope

------------------------------------------------------------
-- Outer Blocks
------------------------------------------------------------

namespace Block

open Lines

/-
  The line that closes the block opened on line `start` and
  so many blocks around it.
-/
def closeOuter?
    (lines : Lines)
    (start outer : Nat) : Option Nat :=
  (closeOffset? (1 + outer) (lines.drop (start + 1))).map
    (start + 1 + ·)

variable {lines : Lines}
variable {start stop outer far : Nat}

/- With no block around it, only the block itself closes. -/
theorem closeOuter?_zero
    (lines : Lines)
    (start : Nat) :
    closeOuter? lines start 0 = close? lines start :=
  rfl

/-
  Outer blocks are closed where the depth falls so far below
  the one inside the block for the first time.
-/
theorem closeOuter?_eq_some_iff :
    closeOuter? lines start outer = some far ↔
      start < far ∧
        depth lines (far + 1) =
          depth lines (start + 1) - 1 - outer ∧
        ∀ i, start < i → i ≤ far →
          depth lines (start + 1) - outer ≤
            depth lines i := by
  unfold closeOuter?
  rw [closeOffset?_drop_eq_some_iff (by omega),
    ← Int.sub_sub]
  refine and_congr_right' (and_congr_right' ?_)
  refine forall_congr' fun i => imp_congr_right fun _ =>
    imp_congr_right fun _ => ?_
  omega

/- Outer blocks do not close before the inner one. -/
theorem le_of_closeOuter?
    (hClose : close? lines start = some stop)
    (hOuter : closeOuter? lines start outer = some far) :
    stop ≤ far := by
  rcases close?_eq_some_iff.mp hClose with ⟨_, _, hOpen⟩
  rcases closeOuter?_eq_some_iff.mp hOuter with
    ⟨hLess, hEnd, _⟩
  by_contra hBefore
  have hInside := hOpen (far + 1) (by omega) (by omega)
  omega

end Block

------------------------------------------------------------
-- Steps of a Repair
------------------------------------------------------------

namespace Repair

open Lines

variable {rule : Rule}
variable {lines next : Lines}
variable {start : Nat}

/- A collapsed pair takes two lines out of the blocks. -/
theorem closeOuter?_collapse?
    (hCollapse : collapse? rule start lines = some next)
    (outer : Nat) :
    Block.closeOuter? next start outer =
      (Block.closeOuter? lines start outer).map (· - 2) := by
  rcases collapse?_eq_some_iff.mp hCollapse with
    ⟨stop, first, pair, hClose, hFirst, _, hPair, hBefore,
      rfl⟩
  have hOrder := Wrapper.order_of_stackedAt? hPair
  have hStart := le_nextFilled? hFirst
  rcases Block.close?_eq_some_iff.mp hClose with
    ⟨_, hStop, hOpen⟩
  rcases Wrapper.stackedAt?_eq_some_iff.mp hPair with
    ⟨_, _, hInnerOpens, _, hInner, _⟩
  rcases Block.close?_eq_some_iff.mp hInner with
    ⟨_, _, hInside⟩
  have hInnerLine := depth_succ lines pair.innerOpen
  rw [Rule.braceBalance_of_opensWrapper hInnerOpens]
    at hInnerLine
  have hInnerOpen := hOpen pair.innerOpen (by omega) (by omega)
  have hFirstDepth :
      depth (collapsed lines first pair) (start + 1) =
        depth lines (start + 1) :=
    depth_collapsed_before hPair (by omega)
  -- Down to the outer closing line, less one for the pair
  -- that goes, the blocks around the method stay open.
  have hStays : ∀ i, start < i → i < pair.innerClose →
      depth lines (start + 1) ≤
        depth (collapsed lines first pair) i := by
    intro i hi hEnd
    by_cases hLe : i ≤ pair.innerOpen
    · rw [depth_collapsed_before hPair hLe]
      exact hOpen i hi (by omega)
    · rw [depth_collapsed_inside hPair (by omega) hEnd]
      have := hInside (i + 1) (by omega) (by omega)
      omega
  apply Option.ext
  intro far
  rw [Block.closeOuter?_eq_some_iff, Option.map_eq_some_iff,
    hFirstDepth]
  constructor
  · rintro ⟨hLess, hEnd, hAbove⟩
    have hBehind : pair.innerClose ≤ far + 1 := by
      by_contra hEarly
      have := hStays (far + 1) (by omega) (by omega)
      omega
    rw [depth_collapsed_behind hPair (by omega)] at hEnd
    refine ⟨far + 2, Block.closeOuter?_eq_some_iff.mpr
      ⟨by omega, hEnd, ?_⟩, by omega⟩
    intro i hi hLe
    by_cases hEarly : i ≤ stop
    · have := hOpen i hi hEarly
      omega
    · have := hAbove (i - 2) (by omega) (by omega)
      rw [depth_collapsed_behind hPair (by omega),
        Nat.sub_add_cancel (by omega)] at this
      exact this
  · rintro ⟨whole, hWhole, rfl⟩
    have hLe := Block.le_of_closeOuter? hClose hWhole
    rcases Block.closeOuter?_eq_some_iff.mp hWhole with
      ⟨_, hEnd, hAbove⟩
    refine ⟨by omega, ?_, ?_⟩
    · rw [depth_collapsed_behind hPair (by omega),
        show whole - 2 + 1 + 2 = whole + 1 by omega]
      exact hEnd
    · intro i hi hLe
      by_cases hEarly : i < pair.innerClose
      · have := hStays i hi hEarly
        omega
      · rw [depth_collapsed_behind hPair (by omega)]
        exact hAbove (i + 2) (by omega) (by omega)

/- A line that is dropped leaves one more block open. -/
theorem closeOuter?_dropSurplus?
    (hDrop : dropSurplus? rule start lines = some next)
    (outer : Nat) :
    Block.closeOuter? next start outer =
      (Block.closeOuter? lines start (outer + 1)).map
        (· - 1) := by
  rcases dropSurplus?_eq_some_iff.mp hDrop with
    ⟨stop, last, hClose, _, hSurplus, rfl⟩
  rcases Wrapper.surplusClose?_eq_some_iff.mp hSurplus with
    ⟨_, _, hCloses, _⟩
  have hBalance := Rule.braceBalance_of_closesEither hCloses
  rcases Block.close?_eq_some_iff.mp hClose with
    ⟨hStart, hStop, hOpen⟩
  have hBehind : ∀ n, stop ≤ n →
      depth (lines.eraseIdx stop) n =
        depth lines (n + 1) + 1 := by
    intro n hLe
    rw [depth_eraseIdx_of_ge lines hLe, hBalance]
    omega
  apply Option.ext
  intro far
  rw [Block.closeOuter?_eq_some_iff, Option.map_eq_some_iff,
    depth_eraseIdx_of_le lines (n := start + 1) hStart]
  constructor
  · rintro ⟨hLess, hEnd, hAbove⟩
    have hLater : stop ≤ far := by
      by_contra hEarly
      rw [depth_eraseIdx_of_le lines (by omega)] at hEnd
      have := hOpen (far + 1) (by omega) (by omega)
      omega
    rw [hBehind _ (by omega)] at hEnd
    refine ⟨far + 1, Block.closeOuter?_eq_some_iff.mpr
      ⟨by omega, by omega, ?_⟩, by omega⟩
    intro i hi hLe
    by_cases hEarly : i ≤ stop
    · have := hOpen i hi hEarly
      omega
    · have := hAbove (i - 1) (by omega) (by omega)
      rw [hBehind _ (by omega),
        Nat.sub_add_cancel (by omega)] at this
      omega
  · rintro ⟨whole, hWhole, rfl⟩
    rcases Block.closeOuter?_eq_some_iff.mp hWhole with
      ⟨_, hEnd, hAbove⟩
    have hLater : stop < whole := by
      by_contra hEarly
      by_cases hSame : whole = stop
      · rw [hSame] at hEnd
        omega
      · have := hOpen (whole + 1) (by omega) (by omega)
        omega
    refine ⟨by omega, ?_, ?_⟩
    · rw [hBehind _ (by omega),
        Nat.sub_add_cancel (by omega)]
      omega
    · intro i hi hLe
      by_cases hEarly : i ≤ stop
      · rw [depth_eraseIdx_of_le lines hEarly]
        have := hOpen i hi hEarly
        omega
      · rw [hBehind _ (by omega)]
        have := hAbove (i + 1) (by omega) (by omega)
        omega

------------------------------------------------------------
-- Repairs
------------------------------------------------------------

/-
  Where the method closes once no step is left: on the line
  that closed as many more blocks as lines were dropped,
  which has moved up by all lines that went.
-/
theorem close?_settle
    (rule : Rule)
    (start : Nat)
    (lines : Lines) :
    let settled := settle rule start lines
    Block.close? settled.1 start =
      (Block.closeOuter? lines start settled.2.dropped).map
        (· - (2 * settled.2.collapsed +
          settled.2.dropped)) := by
  apply settle_induction (motive := fun before settled =>
    Block.close? settled.1 start =
      (Block.closeOuter? before start settled.2.dropped).map
        (· - (2 * settled.2.collapsed +
          settled.2.dropped)))
  case collapse =>
    intro before next hCollapse hNext
    rw [hNext, closeOuter?_collapse? hCollapse,
      Option.map_map]
    congr 1
    funext far
    simp only [Function.comp_apply]
    omega
  case drop =>
    intro before next _ hDrop hNext
    rw [hNext, closeOuter?_dropSurplus? hDrop,
      Option.map_map]
    congr 1
    funext far
    simp only [Function.comp_apply]
    omega
  case done =>
    intro before _ _
    exact Option.map_id'.symm

/- Taking off annotations does not move the end. -/
theorem close?_normalize
    (rule : Rule)
    (start : Nat)
    (lines : Lines) :
    Block.close? (normalize rule start lines).1 start =
      Block.close? lines start := by
  cases hClose : Block.close? lines start with
  | none =>
      unfold normalize
      rw [hClose]
      exact hClose
  | some stop =>
      rw [← hClose]
      apply Block.close?_congr
      intro i
      rw [get_normalize hClose]
      split
      · rename_i hTarget
        rw [Rule.braceBalance_of_closesEither
            (Rule.closesEither_of_closesAnnotated hTarget.2),
          Rule.braceBalance_of_closesEither
            (Rule.closesEither_of_closesWrapper
              (Rule.closesWrapper_append
                (Text.allBlank_leading _)))]
      · rfl

end Repair

namespace Method

/- Where a method closes after a repair. -/
theorem close?_repair
    (rule : Rule)
    (method : Method)
    (lines : Lines) :
    let repaired := method.repair rule lines
    Block.close? repaired.1 method.start =
      (Block.closeOuter? lines method.start
          repaired.2.dropped).map
        (· - (2 * repaired.2.collapsed +
          repaired.2.dropped)) :=
  (Repair.close?_normalize ..).trans
    (Repair.close?_settle rule method.start lines)

/-
  After a repair the method closes if and only if some line
  closed, before the repair, the block of the method and as
  many blocks more as closing lines were dropped.  For each
  line that is dropped it takes another one below that closes
  the method in its place.
-/
theorem closes_repair_iff
    (rule : Rule)
    (method : Method)
    (lines : Lines) :
    let repaired := method.repair rule lines
    ((Block.close? repaired.1 method.start).isSome = true ↔
      (Block.closeOuter? lines method.start
        repaired.2.dropped).isSome = true) ∧
      ∀ before after,
        Repair.dropSurplus? rule method.start before =
            some after →
          ((Block.close? after method.start).isSome = true ↔
            (Block.closeOuter? before method.start
              1).isSome = true) := by
  intro repaired
  constructor
  · rw [close?_repair, Option.isSome_map]
  · intro before after hDrop
    rw [← Block.closeOuter?_zero,
      Repair.closeOuter?_dropSurplus? hDrop,
      Option.isSome_map]

/-
  A surplus line is dropped and the next line, which closed
  the class around the method, closes the method.
-/
theorem closes_repair_iff_enclosed :
    let before : Lines :=
      ["class Quiz \x7b".toList,
        "  void _generateQuestion() \x7b".toList,
        "    setState(() \x7b".toList,
        "      a();".toList,
        "    \x7d); // setState".toList,
        "    \x7d);".toList,
        "  \x7d".toList]
    let after := before.eraseIdx 5
    Repair.dropSurplus? Rule.standard 1 before = some after ∧
      Block.closeOuter? before 1 1 = some 6 ∧
      (Block.close? after 1).isSome = true := by
  intro before after
  have hDrop : Repair.dropSurplus? Rule.standard 1 before =
      some after := by
    decide +kernel
  have hOuter : Block.closeOuter? before 1 1 = some 6 := by
    decide +kernel
  refine ⟨hDrop, hOuter, ?_⟩
  let method : Method :=
    { name := "_generateQuestion".toList
      start := 1
      stop := 5
      indent := "  ".toList
      unit := "  ".toList }
  have hIff := (closes_repair_iff Rule.standard method
    before).2 before after hDrop
  apply hIff.mpr
  rw [hOuter]
  rfl

/-
  The line that closes this method is taken for a surplus
  one, and nothing below it closes the method.
-/
theorem not_closes_repair :
    let lines : Lines :=
      ["void _generateQuestion() \x7b".toList,
        "  setState(() \x7b".toList,
        "    a();".toList,
        "  \x7d);".toList,
        "\x7d); // setState".toList]
    let method : Method :=
      { name := "_generateQuestion".toList
        start := 0
        stop := 4
        indent := []
        unit := "  ".toList }
    .ok method ∈ locate Rule.standard "  ".toList lines ∧
      Block.close? (method.repair Rule.standard lines).1
        method.start = none := by
  decide +kernel

end Method

end NotifyScope
