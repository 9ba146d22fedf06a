import NotifyScope.Proofs.Lines.Position

/-
  Blocks by the depth of braces.  The depth in front of a
  line is the balance of all lines before it.  A block closes
  on the first line behind which the depth is below the one
  inside the block, and it closes there only if it is below
  by exactly one; the walk back from a closing line finds the
  line that opened the block under the same condition, so
  that the two walks take back each other.

  Key definitions include:
    * `Lines.depth`

  Main declarations:
    * `Block.close?_eq_some_iff`
    * `Block.close?_iff_of_drop_eq`
    * `Block.open?_eq_some_iff`
    * `Block.close?_eq_some_iff_open?_eq_some`
-/

------------------------------------------------------------
-- Depth
------------------------------------------------------------

namespace NotifyScope

namespace Lines

/- The balance of the first `n` lines. -/
def depth
    (lines : Lines)
    (n : Nat) : Int :=
  (lines.take n).foldr
    (fun line total => Line.braceBalance line + total) 0

@[simp] theorem depth_zero
    (lines : Lines) :
    depth lines 0 = 0 := rfl

@[simp] theorem depth_cons_succ
    (line : Line)
    (lines : Lines)
    (n : Nat) :
    depth (line :: lines) (n + 1) =
      Line.braceBalance line + depth lines n := by
  simp [depth]

theorem depth_succ
    (lines : Lines)
    (n : Nat) :
    depth lines (n + 1) =
      depth lines n + Line.braceBalance (get lines n) := by
  induction lines generalizing n with
  | nil => simp [depth]
  | cons line lines ih =>
      cases n with
      | zero => simp
      | succ n =>
          rw [depth_cons_succ, depth_cons_succ, ih,
            get_cons_succ]
          omega

theorem depth_drop
    (lines : Lines)
    (m n : Nat) :
    depth lines (m + n) =
      depth lines m + depth (lines.drop m) n := by
  induction n with
  | zero => simp
  | succ n ih =>
      rw [← Nat.add_assoc, depth_succ, depth_succ, ih,
        get_drop]
      omega

/- The depth depends on the balance of earlier lines only. -/
theorem depth_congr
    {left right : Lines}
    {n : Nat}
    (hBalance : ∀ i, i < n →
      Line.braceBalance (get left i) =
        Line.braceBalance (get right i)) :
    depth left n = depth right n := by
  induction n with
  | zero => rfl
  | succ n ih =>
      rw [depth_succ, depth_succ,
        ih (fun i hi => hBalance i (by omega)),
        hBalance n (by omega)]

end Lines

------------------------------------------------------------
-- Closing Lines
------------------------------------------------------------

namespace Block

open Lines

/-
  The walk stops at the first line behind which nothing is
  open; the induction carries how much was open before.
-/
theorem closeOffset?_eq_some_iff
    {opened : Int}
    {lines : Lines}
    {k : Nat}
    (hOpened : 0 < opened) :
    closeOffset? opened lines = some k ↔
      opened + depth lines (k + 1) = 0 ∧
        ∀ j, j ≤ k → 0 < opened + depth lines j := by
  induction lines generalizing opened k with
  | nil =>
      constructor
      · intro hNone
        cases hNone
      · rintro ⟨hZero, _⟩
        simp [depth] at hZero
        omega
  | cons line lines ih =>
      rw [closeOffset?]
      by_cases hZero :
          opened + Line.braceBalance line = 0
      · simp only [hZero, if_true, Option.some.injEq]
        constructor
        · rintro rfl
          constructor
          · simpa using hZero
          · intro j hj
            rw [Nat.le_zero.mp hj, depth_zero]
            omega
        · rintro ⟨_, hOpen⟩
          by_contra hNe
          have hFirst := hOpen 1 (by omega)
          rw [depth_cons_succ, depth_zero] at hFirst
          omega
      · by_cases hNegative :
            opened + Line.braceBalance line < 0
        · simp only [hZero, if_false, hNegative, if_true]
          constructor
          · intro hNone
            cases hNone
          · rintro ⟨hEnd, hOpen⟩
            cases k with
            | zero =>
                rw [depth_cons_succ, depth_zero] at hEnd
                omega
            | succ k =>
                have hFirst := hOpen 1 (by omega)
                rw [depth_cons_succ, depth_zero] at hFirst
                omega
        · simp only [hZero, hNegative, if_false]
          rw [Option.map_eq_some_iff]
          constructor
          · rintro ⟨j, hWalk, rfl⟩
            rw [ih (by omega)] at hWalk
            rcases hWalk with ⟨hEnd, hOpen⟩
            constructor
            · rw [depth_cons_succ]
              omega
            · intro i hi
              cases i with
              | zero =>
                  rw [depth_zero]
                  omega
              | succ i =>
                  have hInner := hOpen i (by omega)
                  rw [depth_cons_succ]
                  omega
          · rintro ⟨hEnd, hOpen⟩
            cases k with
            | zero =>
                rw [depth_cons_succ, depth_zero] at hEnd
                omega
            | succ k =>
                refine ⟨k, ?_, rfl⟩
                rw [ih (by omega)]
                constructor
                · rw [depth_cons_succ] at hEnd
                  omega
                · intro i hi
                  have hInner := hOpen (i + 1) (by omega)
                  rw [depth_cons_succ] at hInner
                  omega

/- The walk below line `n`, by the depth in the whole list. -/
theorem closeOffset?_drop_eq_some_iff
    {opened : Int}
    {lines : Lines}
    {n stop : Nat}
    (hOpened : 0 < opened) :
    (closeOffset? opened (lines.drop n)).map (n + ·) =
        some stop ↔
      n ≤ stop ∧
        depth lines (stop + 1) = depth lines n - opened ∧
        ∀ i, n ≤ i → i ≤ stop →
          depth lines n - opened < depth lines i := by
  rw [Option.map_eq_some_iff]
  constructor
  · rintro ⟨k, hWalk, rfl⟩
    rw [closeOffset?_eq_some_iff hOpened] at hWalk
    rcases hWalk with ⟨hEnd, hOpen⟩
    refine ⟨by omega, ?_, ?_⟩
    · rw [Nat.add_assoc, depth_drop]
      omega
    · intro i hStart hStop
      have hInner := hOpen (i - n) (by omega)
      have hAt := depth_drop lines n (i - n)
      rw [Nat.add_sub_cancel' hStart] at hAt
      omega
  · rintro ⟨hLess, hEnd, hOpen⟩
    refine ⟨stop - n, ?_, by omega⟩
    rw [closeOffset?_eq_some_iff hOpened]
    constructor
    · have hAt := depth_drop lines n (stop - n + 1)
      rw [← Nat.add_assoc, Nat.add_sub_cancel' hLess] at hAt
      omega
    · intro j hj
      have hAt := depth_drop lines n j
      have hInner := hOpen (n + j) (by omega) (by omega)
      omega

/-
  A block closes where the depth falls below the one inside
  it, by one, for the first time.
-/
theorem close?_eq_some_iff
    {lines : Lines}
    {start stop : Nat} :
    close? lines start = some stop ↔
      start < stop ∧
        depth lines (stop + 1) =
          depth lines (start + 1) - 1 ∧
        ∀ i, start < i → i ≤ stop →
          depth lines (start + 1) ≤ depth lines i := by
  simp only [close?,
    closeOffset?_drop_eq_some_iff Int.one_pos,
    Int.sub_one_lt_iff, Nat.succ_le_iff]

/- Where a block closes depends on the balances only. -/
theorem close?_congr
    {left right : Lines}
    (hBalance : ∀ i,
      Line.braceBalance (get left i) =
        Line.braceBalance (get right i))
    (start : Nat) :
    close? left start = close? right start := by
  have hDepth : ∀ n, depth left n = depth right n :=
    fun n => depth_congr fun i _ => hBalance i
  apply Option.ext
  intro stop
  simp only [close?_eq_some_iff, hDepth]

/- The lines above a block do not matter to it. -/
theorem close?_iff_of_drop_eq
    {left right : Lines}
    {a b i j : Nat}
    (hDrop : left.drop a = right.drop b) :
    close? left (a + i) = some (a + j) ↔
      close? right (b + i) = some (b + j) := by
  have hAdd : ∀ (lines : Lines) (n : Nat),
      lines.drop (n + i + 1) =
        (lines.drop n).drop (i + 1) := by
    intro lines n
    rw [List.drop_drop, Nat.add_assoc]
  have hBelow :
      left.drop (a + i + 1) = right.drop (b + i + 1) := by
    rw [hAdd, hAdd, hDrop]
  unfold close?
  rw [hBelow, Option.map_eq_some_iff, Option.map_eq_some_iff]
  constructor
  · rintro ⟨k, hWalk, hEnd⟩
    exact ⟨k, hWalk, by omega⟩
  · rintro ⟨k, hWalk, hEnd⟩
    exact ⟨k, hWalk, by omega⟩

/- Nor do the lines below it matter. -/
theorem close?_of_get_eq
    {left right : Lines}
    {start stop : Nat}
    (hGet : ∀ i, i ≤ stop → get left i = get right i)
    (hClose : close? left start = some stop) :
    close? right start = some stop := by
  have hDepth : ∀ n, n ≤ stop + 1 →
      depth left n = depth right n :=
    fun n hn => depth_congr fun i hi => by
      rw [hGet i (by omega)]
  rcases close?_eq_some_iff.mp hClose with
    ⟨hLess, hEnd, hOpen⟩
  rw [close?_eq_some_iff, ← hDepth _ le_rfl,
    ← hDepth (start + 1) (by omega)]
  refine ⟨hLess, hEnd, ?_⟩
  intro i hStart hStop
  rw [← hDepth i (by omega)]
  exact hOpen i hStart hStop

/- A block closes before the depth in front of it is back. -/
theorem close?_lt_of_depth_le
    {lines : Lines}
    {start stop n : Nat}
    (hClose : close? lines start = some stop)
    (hOpener : Line.braceBalance (get lines start) = 1)
    (hLess : start < n)
    (hDepth : depth lines n ≤ depth lines start) :
    stop < n := by
  rcases close?_eq_some_iff.mp hClose with ⟨_, _, hOpen⟩
  have hInside := depth_succ lines start
  by_contra hLater
  have hBelow := hOpen n hLess (by omega)
  omega

/- A block that is opened inside another closes in it. -/
theorem le_of_close?_inside
    {lines : Lines}
    {start stop inner last : Nat}
    (hClose : close? lines start = some stop)
    (hInner : close? lines inner = some last)
    (hStart : start < inner)
    (hStop : inner < stop) :
    last ≤ stop := by
  rcases close?_eq_some_iff.mp hClose with
    ⟨_, hEnd, hOpen⟩
  rcases close?_eq_some_iff.mp hInner with ⟨_, _, hWithin⟩
  by_contra hLater
  have hBehind := hWithin (stop + 1) (by omega) (by omega)
  have hInside := hOpen (inner + 1) (by omega) (by omega)
  omega

------------------------------------------------------------
-- Opening Lines
------------------------------------------------------------

/-
  The walk back stops at the first line in front of which
  nothing is missing any more.  What is missing behind line
  `n` is the depth there less the depth `level` outside; the
  induction is on the lines that the walk has still to pass.
-/
theorem openOffset?_take_eq_some_iff
    {lines : Lines}
    {level : Int}
    {n start : Nat}
    (hLength : n ≤ lines.length)
    (hMissing : level < depth lines n) :
    (openOffset? (depth lines n - level)
        (lines.take n).reverse).map (n - 1 - ·) =
        some start ↔
      start < n ∧ depth lines start = level ∧
        ∀ i, start < i → i ≤ n → level < depth lines i := by
  induction n with
  | zero => simp [openOffset?]
  | succ n ih =>
      have hStep := depth_succ lines n
      rw [List.take_succ_eq_append_getElem (by omega),
        List.reverse_append, ← get_eq_getElem (by omega),
        List.reverse_singleton, List.singleton_append]
      simp only [openOffset?]
      rw [show depth lines (n + 1) - level -
          Line.braceBalance (get lines n) =
            depth lines n - level by omega]
      by_cases hZero : depth lines n - level = 0
      · rw [if_pos hZero, Option.map_some,
          Option.some.injEq]
        constructor
        · rintro rfl
          refine ⟨by omega, by simp; omega, ?_⟩
          intro i hStart hStop
          rw [show i = n + 1 by omega]
          exact hMissing
        · rintro ⟨hLess, _, hOpen⟩
          by_contra hNe
          have hBefore := hOpen n (by omega) (by omega)
          omega
      · by_cases hNegative : depth lines n - level < 0
        · rw [if_neg hZero, if_pos hNegative]
          constructor
          · intro hNone
            cases hNone
          · rintro ⟨hLess, hLevel, hOpen⟩
            by_cases hLast : start = n
            · rw [hLast] at hLevel
              omega
            · have hBefore :=
                hOpen n (by omega) (by omega)
              omega
        · rw [if_neg hZero, if_neg hNegative, Option.map_map]
          have hShift :
              ((n + 1 - 1 - ·) ∘ (· + 1) : Nat → Nat) =
                (n - 1 - ·) := by
            funext k
            simp only [Function.comp_apply]
            omega
          rw [hShift, ih (by omega) (by omega)]
          constructor
          · rintro ⟨hLess, hLevel, hOpen⟩
            refine ⟨by omega, hLevel, ?_⟩
            intro i hStart hStop
            by_cases hLast : i = n + 1
            · rw [hLast]
              exact hMissing
            · exact hOpen i hStart (by omega)
          · rintro ⟨hLess, hLevel, hOpen⟩
            have hNe : start ≠ n := by
              rintro rfl
              omega
            exact ⟨by omega, hLevel,
              fun i hStart hStop =>
                hOpen i hStart (by omega)⟩

/-
  A block opens where the depth, going back from the line
  that closes it, is for the first time what it is behind
  that line.
-/
theorem open?_eq_some_iff
    {lines : Lines}
    {start stop : Nat} :
    open? lines stop = some start ↔
      start < stop ∧
        depth lines start = depth lines (stop + 1) ∧
        ∀ i, start < i → i ≤ stop →
          depth lines (stop + 1) < depth lines i := by
  have hLast := depth_succ lines stop
  have hMissing :
      -Line.braceBalance (get lines stop) =
        depth lines stop - depth lines (stop + 1) := by
    omega
  unfold open?
  simp only [hMissing]
  by_cases hNone :
      depth lines stop - depth lines (stop + 1) ≤ 0
  · rw [if_pos hNone]
    constructor
    · intro hOpen
      cases hOpen
    · rintro ⟨hLess, _, hOpen⟩
      have hBefore := hOpen stop hLess le_rfl
      omega
  · have hLength : stop < lines.length := by
      by_contra hPast
      rw [get_of_length_le (Nat.le_of_not_lt hPast),
        Line.braceBalance_nil] at hLast
      omega
    rw [if_neg hNone,
      openOffset?_take_eq_some_iff hLength.le (by omega)]

/- The walk back from a closing line ends at the opener. -/
theorem open?_of_close?
    {lines : Lines}
    {start stop : Nat}
    (hClose : close? lines start = some stop)
    (hOpener : Line.braceBalance (get lines start) = 1) :
    open? lines stop = some start := by
  have hInside := depth_succ lines start
  rcases close?_eq_some_iff.mp hClose with
    ⟨hLess, hEnd, hOpen⟩
  refine open?_eq_some_iff.mpr ⟨hLess, by omega, ?_⟩
  intro i hStart hStop
  have hWithin := hOpen i hStart hStop
  omega

/- The walk down from an opener ends where it came from. -/
theorem close?_of_open?
    {lines : Lines}
    {start stop : Nat}
    (hOpen : open? lines stop = some start)
    (hOpener : Line.braceBalance (get lines start) = 1) :
    close? lines start = some stop := by
  have hInside := depth_succ lines start
  rcases open?_eq_some_iff.mp hOpen with
    ⟨hLess, hEnd, hWithin⟩
  refine close?_eq_some_iff.mpr ⟨hLess, by omega, ?_⟩
  intro i hStart hStop
  have hBetween := hWithin i hStart hStop
  omega

/-
  From a line that opens one block the walk down ends at
  another line exactly if the walk back from there ends at
  the first one.
-/
theorem close?_eq_some_iff_open?_eq_some
    {lines : Lines}
    {start stop : Nat}
    (hOpener : Line.braceBalance (get lines start) = 1) :
    close? lines start = some stop ↔
      open? lines stop = some start :=
  ⟨fun hClose => open?_of_close? hClose hOpener,
    fun hOpen => close?_of_open? hOpen hOpener⟩

/- Both walks pass a block inside and a line of two braces. -/
theorem close?_eq_some_iff_open?_eq_some_nested :
    let lines : Lines :=
      ["f() \x7b".toList, "if (x) \x7b \x7b".toList,
        "\x7d\x7d".toList, "\x7d".toList]
    Line.braceBalance (get lines 0) = 1 ∧
      close? lines 0 = some 3 ∧ open? lines 3 = some 0 := by
  intro lines
  have hOpener : Line.braceBalance (get lines 0) = 1 := by
    decide
  have hClose : close? lines 0 = some 3 := by
    decide
  exact ⟨hOpener, hClose,
    (close?_eq_some_iff_open?_eq_some hOpener).mp hClose⟩

end Block

end NotifyScope
