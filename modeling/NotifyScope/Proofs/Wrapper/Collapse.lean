import NotifyScope.Proofs.Method.State
import NotifyScope.Proofs.Wrapper.Indentation

/-
  Taking out the inner one of two stacked wrappers.  The two
  lines that go cancel out, so that the method still ends on
  its closing line, and the end of its body is as before.

  Main declarations:
    * `Repair.get_collapsed_before`
    * `Repair.trim_get_collapsed_behind`
    * `Repair.spans_collapsed`
    * `Repair.dropSurplus?_collapsed`
    * `Repair.collapse?_of_dropSurplus?`
-/

------------------------------------------------------------
-- Depth without a Line
------------------------------------------------------------

namespace NotifyScope

namespace Lines

theorem depth_eraseIdx_of_le
    (lines : Lines)
    {j n : Nat}
    (hLe : n ≤ j) :
    depth (lines.eraseIdx j) n = depth lines n := by
  apply depth_congr
  intro i hi
  rw [get_eraseIdx_of_lt lines (by omega)]

theorem depth_eraseIdx_of_ge
    (lines : Lines)
    {j n : Nat}
    (hLe : j ≤ n) :
    depth (lines.eraseIdx j) n =
      depth lines (n + 1) -
        Line.braceBalance (get lines j) := by
  induction n, hLe using Nat.le_induction with
  | base =>
      rw [depth_eraseIdx_of_le lines le_rfl, depth_succ]
      omega
  | succ n hLe ih =>
      rw [depth_succ, ih, get_eraseIdx_of_ge lines hLe,
        depth_succ lines (n + 1)]
      omega

/- Blank lines leave the depth alone. -/
theorem depth_of_allBlank
    {lines : Lines}
    {m n : Nat}
    (hLe : m ≤ n)
    (hBlank : ∀ i, m ≤ i → i < n →
      Text.allBlank (get lines i) = true) :
    depth lines n = depth lines m := by
  induction n, hLe using Nat.le_induction with
  | base => rfl
  | succ n hLe ih =>
      rw [depth_succ,
        Line.braceBalance_of_allBlank
          (hBlank n hLe (Nat.lt_succ_self n)),
        ih fun i hi hLess => hBlank i hi (by omega)]
      omega

theorem depth_outdent
    (lines : Lines)
    (outer inner stop n : Nat) :
    depth (outdent lines outer inner stop) n =
      depth lines n := by
  apply depth_congr
  intro i _
  exact Line.braceBalance_eq_of_trim_eq
    (trim_get_outdent ..)

end Lines

namespace Repair

open Lines

variable {rule : Rule}
variable {lines : Lines}
variable {first : Nat}
variable {pair : Wrapper.StackedPair}

------------------------------------------------------------
-- Lines That Are Left
------------------------------------------------------------

/- In front of the lines that go nothing changes. -/
theorem get_collapsed_before
    (hOrder : pair.innerOpen < pair.innerClose)
    {i : Nat}
    (hLess : i < pair.innerOpen) :
    get (collapsed lines first pair) i = get lines i := by
  unfold collapsed
  rw [get_eraseIdx_of_lt _ hLess,
    get_eraseIdx_of_lt _ (by omega)]
  unfold outdent
  simp only
  split
  · by_cases hLength : i < lines.length
    · rw [get_mapIdx _ _ hLength, if_neg (by omega)]
    · rw [get_of_length_le (by simpa using hLength),
        get_of_length_le (by omega)]
  · rfl

/- Behind them lines move up, and are indented less. -/
theorem trim_get_collapsed_behind
    (hOrder : pair.innerOpen < pair.innerClose)
    {i : Nat}
    (hLe : pair.innerClose ≤ i + 1) :
    Text.trim (get (collapsed lines first pair) i) =
      Text.trim (get lines (i + 2)) := by
  unfold collapsed
  rw [get_eraseIdx_of_ge _ (by omega),
    get_eraseIdx_of_ge _ hLe, trim_get_outdent]

/- Behind the inner closing line they do no more than that. -/
theorem drop_collapsed
    (hOrder : pair.innerOpen < pair.innerClose)
    {n : Nat}
    (hLe : pair.innerClose ≤ n + 1) :
    (collapsed lines first pair).drop n =
      lines.drop (n + 2) := by
  apply List.ext_getElem?
  intro i
  unfold collapsed
  rw [List.getElem?_drop, List.getElem?_drop,
    List.getElem?_eraseIdx_of_ge (by omega),
    List.getElem?_eraseIdx_of_ge (by omega)]
  unfold outdent
  simp only
  split
  · simp only [List.getElem?_mapIdx,
      show ¬n + i + 1 + 1 < pair.innerClose by omega,
      and_false, if_false, Option.map_id']
    rw [show n + i + 1 + 1 = n + 2 + i by omega]
  · rw [show n + i + 1 + 1 = n + 2 + i by omega]

/- Every line that is left only lost white space in front. -/
theorem exists_trimLeft_get_collapsed
    (lines : Lines)
    (first : Nat)
    {pair : Wrapper.StackedPair}
    (hOrder : pair.innerOpen < pair.innerClose)
    (i : Nat) :
    ∃ j, i ≤ j ∧ j ≤ i + 2 ∧
      Text.trimLeft (get (collapsed lines first pair) i) =
        Text.trimLeft (get lines j) := by
  unfold collapsed
  by_cases hOpen : i < pair.innerOpen
  · refine ⟨i, le_rfl, by omega, ?_⟩
    rw [get_eraseIdx_of_lt _ hOpen,
      get_eraseIdx_of_lt _ (by omega),
      trimLeft_get_outdent]
  · rw [get_eraseIdx_of_ge _ (Nat.le_of_not_lt hOpen)]
    by_cases hClose : i + 1 < pair.innerClose
    · refine ⟨i + 1, by omega, by omega, ?_⟩
      rw [get_eraseIdx_of_lt _ hClose,
        trimLeft_get_outdent]
    · refine ⟨i + 2, by omega, le_rfl, ?_⟩
      rw [get_eraseIdx_of_ge _ (Nat.le_of_not_lt hClose),
        trimLeft_get_outdent]

theorem length_collapsed
    (hOrder : pair.innerOpen < pair.innerClose)
    (hLess : pair.innerClose < lines.length) :
    (collapsed lines first pair).length =
      lines.length - 2 := by
  unfold collapsed
  rw [List.length_eraseIdx, List.length_eraseIdx,
    length_outdent, if_pos hLess, if_pos (by omega)]
  omega

------------------------------------------------------------
-- Depth
------------------------------------------------------------

section Depth

variable
  (hPair : Wrapper.stackedAt? rule lines first = some pair)

include hPair

theorem depth_collapsed_before
    {n : Nat}
    (hLe : n ≤ pair.innerOpen) :
    depth (collapsed lines first pair) n =
      depth lines n := by
  have hOrder := Wrapper.order_of_stackedAt? hPair
  unfold collapsed
  rw [depth_eraseIdx_of_le _ hLe,
    depth_eraseIdx_of_le _ (by omega), depth_outdent]

/- Between the lines that go, the depth is less by one. -/
theorem depth_collapsed_inside
    {n : Nat}
    (hOpen : pair.innerOpen ≤ n)
    (hClose : n < pair.innerClose) :
    depth (collapsed lines first pair) n =
      depth lines (n + 1) - 1 := by
  have hOrder := Wrapper.order_of_stackedAt? hPair
  rcases Wrapper.stackedAt?_eq_some_iff.mp hPair with
    ⟨_, _, hOpens, _⟩
  unfold collapsed
  rw [depth_eraseIdx_of_ge _ hOpen,
    depth_eraseIdx_of_le _ hClose, depth_outdent,
    get_eraseIdx_of_lt _ hOrder.2.1,
    Line.braceBalance_eq_of_trim_eq (trim_get_outdent ..),
    Rule.braceBalance_of_opensWrapper hOpens]

theorem depth_collapsed_behind
    {n : Nat}
    (hLe : pair.innerClose ≤ n + 1) :
    depth (collapsed lines first pair) n =
      depth lines (n + 2) := by
  have hOrder := Wrapper.order_of_stackedAt? hPair
  rcases Wrapper.stackedAt?_eq_some_iff.mp hPair with
    ⟨_, _, hOpens, _, _, _, hCloses, _⟩
  unfold collapsed
  rw [depth_eraseIdx_of_ge _ (by omega),
    depth_eraseIdx_of_ge _ hLe, depth_outdent,
    get_eraseIdx_of_lt _ hOrder.2.1,
    Line.braceBalance_eq_of_trim_eq (trim_get_outdent ..),
    Line.braceBalance_eq_of_trim_eq (trim_get_outdent ..),
    Rule.braceBalance_of_opensWrapper hOpens,
    Rule.braceBalance_of_closesEither hCloses,
    Nat.add_assoc]
  omega

end Depth

------------------------------------------------------------
-- Methods
------------------------------------------------------------

variable {start stop : Nat}

/- The method ends on the same line, two lines further up. -/
theorem spans_collapsed
    (hSpans : Method.Spans rule lines start stop)
    (hPair : Wrapper.stackedAt? rule lines first = some pair)
    (hStart : start < first)
    (hOuter : pair.outerClose < stop) :
    Method.Spans rule (collapsed lines first pair) start
      (stop - 2) := by
  have hOrder := Wrapper.order_of_stackedAt? hPair
  rcases Wrapper.stackedAt?_eq_some_iff.mp hPair with
    ⟨_, _, _, _, hInner, _⟩
  rcases Block.close?_eq_some_iff.mp hSpans.closes with
    ⟨_, hEnd, hOpen⟩
  rcases Block.close?_eq_some_iff.mp hInner with
    ⟨_, _, hInside⟩
  have hInnerLine := depth_succ lines pair.innerOpen
  rcases Wrapper.stackedAt?_eq_some_iff.mp hPair with
    ⟨_, _, hInnerOpens, _⟩
  rw [Rule.braceBalance_of_opensWrapper hInnerOpens]
    at hInnerLine
  have hInnerOpen :=
    hOpen pair.innerOpen (by omega) (by omega)
  constructor
  · rw [Block.close?_eq_some_iff,
      depth_collapsed_before hPair (n := start + 1)
        (by omega)]
    refine ⟨by omega, ?_, ?_⟩
    · rw [depth_collapsed_behind hPair (by omega),
        show stop - 2 + 1 + 2 = stop + 1 by omega]
      exact hEnd
    · intro i hi hiStop
      by_cases hBefore : i ≤ pair.innerOpen
      · rw [depth_collapsed_before hPair hBefore]
        exact hOpen i hi (by omega)
      · by_cases hMiddle : i < pair.innerClose
        · rw [depth_collapsed_inside hPair (by omega)
            hMiddle]
          have := hInside (i + 1) (by omega) (by omega)
          omega
        · rw [depth_collapsed_behind hPair (by omega)]
          exact hOpen (i + 2) (by omega) (by omega)
  · rw [get_collapsed_before hOrder.2.1 (by omega)]
    exact hSpans.opener

/- A surplus closing line was one before. -/
theorem dropSurplus?_collapsed
    (hSpans : Method.Spans rule lines start stop)
    (hPair : Wrapper.stackedAt? rule lines first = some pair)
    (hStart : start < first)
    (hOuter : pair.outerClose < stop)
    (hNone : dropSurplus? rule start lines = none) :
    dropSurplus? rule start (collapsed lines first pair) =
      none := by
  have hOrder := Wrapper.order_of_stackedAt? hPair
  have hAfter :=
    spans_collapsed hSpans hPair hStart hOuter
  have hTrim : ∀ i, pair.innerClose ≤ i + 1 →
      Text.trim (get (collapsed lines first pair) i) =
        Text.trim (get lines (i + 2)) :=
    fun i hi => trim_get_collapsed_behind hOrder.2.1 hi
  rw [← Option.not_isSome_iff_eq_none,
    dropSurplus?_isSome_iff hAfter]
  rw [← Option.not_isSome_iff_eq_none,
    dropSurplus?_isSome_iff hSpans] at hNone
  rintro ⟨last, hLast, hClosers⟩
  rcases lastFilled?_eq_some_iff.mp hLast with
    ⟨hLe, hLess, hFilled, hBlank⟩
  -- The outer closing line is left, so the end of the body
  -- is behind the lines that go.
  have hEnd : pair.outerClose - 2 ≤ last := by
    by_contra hBefore
    have hGone :=
      hBlank (pair.outerClose - 2) (by omega) (by omega)
    rw [Text.allBlank_eq_of_trim_eq (hTrim _ (by omega)),
      Nat.sub_add_cancel (by omega)] at hGone
    rcases Wrapper.stackedAt?_eq_some_iff.mp hPair with
      ⟨_, _, _, _, _, hNext, _⟩
    have hOuterFilled :=
      (nextFilled?_eq_some_iff.mp hNext).2.1
    rw [hGone] at hOuterFilled
    cases hOuterFilled
  have hLastTrim := hTrim last (by omega)
  have hStopTrim := hTrim (stop - 2) (by omega)
  rw [Nat.sub_add_cancel (by omega)] at hStopTrim
  apply hNone
  refine ⟨last + 2, ?_, ?_⟩
  · rw [lastFilled?_eq_some_iff]
    refine ⟨by omega, by omega, ?_, ?_⟩
    · rw [← Text.allBlank_eq_of_trim_eq hLastTrim]
      exact hFilled
    · intro i hi hiStop
      have hGone := hBlank (i - 2) (by omega) (by omega)
      rw [Text.allBlank_eq_of_trim_eq (hTrim _ (by omega)),
        Nat.sub_add_cancel (by omega)] at hGone
      exact hGone
  · rw [← (Rule.Alike.of_trim_eq hLastTrim).closes,
      ← (Rule.Alike.of_trim_eq hStopTrim).closes,
      ← Rule.closesAnnotated_congr hLastTrim,
      ← Rule.closesAnnotated_congr hStopTrim]
    exact hClosers

/-
  Dropping a closing line makes no wrapper to collapse.  The
  line in front of it is a closing line as well, and behind
  that one the depth is back at the level of the body.  So a
  wrapper that starts the body ends there or earlier, where
  nothing has changed.
-/
theorem collapse?_of_dropSurplus?
    {next : Lines}
    (hOpener : (Method.opener? rule
      (get lines start)).isSome = true)
    (hNone : collapse? rule start lines = none)
    (hDrop : dropSurplus? rule start lines = some next) :
    collapse? rule start next = none := by
  rcases dropSurplus?_eq_some_iff.mp hDrop with
    ⟨stop, last, hClose, hLast, hSurplus, rfl⟩
  have hSpans : Method.Spans rule lines start stop :=
    ⟨hClose, hOpener⟩
  rw [Wrapper.surplusClose?_eq hSpans hLast] at hSurplus
  split at hSurplus
  · rename_i hClosers
    rcases lastFilled?_eq_some_iff.mp hLast with
      ⟨hStart, hLess, hFilled, hBlank⟩
    rcases Block.close?_eq_some_iff.mp hClose with
      ⟨_, hEnd, hOpen⟩
    have hKept : ∀ i, i < stop →
        get (lines.eraseIdx stop) i = get lines i :=
      fun i hi => get_eraseIdx_of_lt lines hi
    have hWindow :
        Window rule (lines.eraseIdx stop) 0 lines 0 stop := by
      intro i hi
      rw [Nat.zero_add, hKept i hi]
      exact Rule.Alike.refl _
    have hBack :
        depth lines (last + 1) = depth lines (start + 1) := by
      have hStop := depth_succ lines stop
      rw [Rule.braceBalance_of_closesEither hClosers.2.1,
        depth_of_allBlank (m := last + 1) hLess hBlank]
        at hStop
      omega
    cases hAfter :
        collapse? rule start (lines.eraseIdx stop) with
    | none => rfl
    | some far =>
        rcases collapse?_eq_some_iff.mp hAfter with
          ⟨_, first, pair, _, hFirst, _, hPair, _, _⟩
        rcases Wrapper.stackedAt?_eq_some_iff.mp hPair with
          ⟨hOpens, _, _, hOuterClose, _⟩
        rcases nextFilled?_eq_some_iff.mp hFirst with
          ⟨hLe, _, hFirstBlank⟩
        have hFirstLe : first ≤ last := by
          by_contra hLater
          have hGone :=
            hFirstBlank last hStart (by omega)
          rw [hKept last hLess, hFilled] at hGone
          cases hGone
        have hOpener :=
          Rule.braceBalance_of_opensWrapper hOpens
        have hNe : first ≠ last := by
          rintro rfl
          rw [hKept first hLess,
            Rule.braceBalance_of_closesEither hClosers.1]
            at hOpener
          exact absurd hOpener (by decide)
        have hOuter : pair.outerClose < last + 1 := by
          apply Block.close?_lt_of_depth_le hOuterClose
            hOpener (by omega)
          rw [depth_eraseIdx_of_le lines hLess,
            depth_eraseIdx_of_le lines (by omega), hBack]
          exact hOpen first hLe (by omega)
        have hSame :
            collapse? rule start lines =
              some (collapsed lines first pair) := by
          have hFound :=
            hWindow.nextFilled? (i := start + 1) (j := first)
              (by omega) (by simpa using hFirst)
          have hShift : pair.shift 0 = pair := by
            unfold Wrapper.StackedPair.shift
            simp only [Nat.zero_add]
          have hStacked :
              Wrapper.stackedAt? rule lines (0 + first) =
                some (pair.shift 0) :=
            hWindow.stackedAt? (by omega)
              (by rw [Nat.zero_add, hPair, hShift])
          rw [Nat.zero_add, Nat.zero_add] at hFound
          rw [Nat.zero_add, hShift] at hStacked
          exact collapse?_eq_some_iff.mpr
            ⟨stop, first, pair, hClose, hFound, by omega,
              hStacked, by omega, rfl⟩
        rw [hNone] at hSame
        cases hSame
  · cases hSurplus

end Repair

end NotifyScope
