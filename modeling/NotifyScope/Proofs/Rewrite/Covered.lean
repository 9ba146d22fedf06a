import NotifyScope.Proofs.Rewrite.Unchanged

/-
  Declarations that need no marker any more.  Behind a
  rewrite every declaration line stands below its marker, or
  is no method that a search could find: its block does not
  close, or it lies in the block of another declaration, or
  another declaration lies in its own.  A rewrite of a method
  further up keeps that for all the lines below, even if a
  repair takes lines out that closed other blocks.

  Key definitions include:
    * `Lines.Covered`
    * `Lines.Tidy`
    * `Method.Vacant`
    * `Repair.Safe`

  Main declarations:
    * `Lines.Tidy.eraseIdx`
    * `Repair.tidy_settle`
    * `Method.tidy_rewriteAll`
-/

------------------------------------------------------------
-- Covered Declarations
------------------------------------------------------------

namespace NotifyScope

namespace Lines

/- Whether a line declares a method. -/
def Opens
    (rule : Rule)
    (lines : Lines)
    (i : Nat) : Prop :=
  (Method.opener? rule (get lines i)).isSome = true

/- Whether the block opened on one line holds another. -/
def Holds
    (lines : Lines)
    (i j : Nat) : Prop :=
  ∃ stop, Block.close? lines i = some stop ∧
    i < j ∧ j ≤ stop

/-
  What spares a declaration another marker, with a look at
  the lines from number `n` on: a marker above it, a block
  without an end, or another declaration in its block or
  around it.
-/
inductive Covered
    (rule : Rule)
    (marker : Line)
    (lines : Lines)
    (n i : Nat) : Prop where
  | marked
      (hLess : n < i)
      (hAbove : Text.trim (get lines (i - 1)) = marker)
  | endless
      (hNone : Block.close? lines i = none)
  | nested
      (k : Nat)
      (hLe : n ≤ k)
      (hOpens : Opens rule lines k)
      (hHolds : Holds lines i k ∨ Holds lines k i)

/- Lines in which all declarations from `n` on are covered. -/
def Tidy
    (rule : Rule)
    (marker : Line)
    (lines : Lines)
    (n : Nat) : Prop :=
  ∀ i, n ≤ i → Opens rule lines i →
    Covered rule marker lines n i

variable {rule : Rule}
variable {marker : Line}
variable {lines left right : Lines}
variable {m n i : Nat}

theorem Opens.braceBalance
    (hOpens : Opens rule lines i) :
    Line.braceBalance (get lines i) = 1 := by
  rcases Option.isSome_iff_exists.mp hOpens with
    ⟨name, hName⟩
  exact Method.braceBalance_of_opener? hName

theorem Opens.lt_length
    (hOpens : Opens rule lines i) :
    i < lines.length := by
  apply lt_length_of_filled
  apply Line.not_allBlank_of_braceBalance_ne
  rw [hOpens.braceBalance]
  decide

theorem Opens.of_get_eq
    {j : Nat}
    (hOpens : Opens rule left i)
    (hGet : get right j = get left i) :
    Opens rule right j := by
  unfold Opens
  rw [hGet]
  exact hOpens

/- More lines to look at cover no less. -/
theorem Covered.mono
    (hLe : m ≤ n)
    (hCovered : Covered rule marker lines n i) :
    Covered rule marker lines m i := by
  cases hCovered with
  | marked hLess hAbove => exact .marked (by omega) hAbove
  | endless hNone => exact .endless hNone
  | nested k hFrom hOpens hHolds =>
      exact .nested k (by omega) hOpens hHolds

theorem Tidy.of_le
    (hLe : m ≤ n)
    (hTidy : Tidy rule marker lines n)
    (hAbove : ∀ i, m ≤ i → i < n → Opens rule lines i →
      Covered rule marker lines m i) :
    Tidy rule marker lines m := by
  intro i hFrom hOpens
  by_cases hLess : i < n
  · exact hAbove i hFrom hLess hOpens
  · exact (hTidy i (Nat.le_of_not_lt hLess) hOpens).mono hLe

/- The lines above do not matter. -/
theorem Holds.shift
    {a b k : Nat}
    (hDrop : left.drop a = right.drop b)
    (hHolds : Holds left (a + i) (a + k)) :
    Holds right (b + i) (b + k) := by
  rcases hHolds with ⟨stop, hClose, hLess, hStop⟩
  obtain ⟨j, rfl⟩ :=
    Nat.exists_eq_add_of_le (show a ≤ stop by omega)
  exact ⟨b + j, (Block.close?_iff_of_drop_eq hDrop).mp hClose,
    by omega, by omega⟩

theorem Covered.shift
    {a b : Nat}
    (hDrop : left.drop a = right.drop b)
    (hCovered : Covered rule marker left a (a + i)) :
    Covered rule marker right b (b + i) := by
  have hGet := fun j => get_eq_of_drop_eq hDrop j
  cases hCovered with
  | marked hLess hAbove =>
      refine .marked (by omega) ?_
      have hPrev := hGet (i - 1)
      rw [← Nat.add_sub_assoc (by omega),
        ← Nat.add_sub_assoc (by omega)] at hPrev
      rw [hPrev]
      exact hAbove
  | endless hNone =>
      refine .endless ?_
      cases hClose : Block.close? right (b + i) with
      | none => rfl
      | some stop =>
          have hLess := Block.lt_close? hClose
          obtain ⟨k, rfl⟩ :=
            Nat.exists_eq_add_of_le (show b ≤ stop by omega)
          rw [(Block.close?_iff_of_drop_eq hDrop).mpr hClose]
            at hNone
          cases hNone
  | nested k hLe hOpens hHolds =>
      obtain ⟨l, rfl⟩ := Nat.exists_eq_add_of_le hLe
      refine .nested (b + l) (Nat.le_add_right b l)
        (hOpens.of_get_eq (hGet l)) ?_
      exact hHolds.imp (Holds.shift hDrop)
        (Holds.shift hDrop)

theorem Tidy.shift
    {a b : Nat}
    (hDrop : left.drop a = right.drop b)
    (hTidy : Tidy rule marker left a) :
    Tidy rule marker right b := by
  intro i hFrom hOpens
  obtain ⟨j, rfl⟩ := Nat.exists_eq_add_of_le hFrom
  apply Covered.shift hDrop
  exact hTidy (a + j) (Nat.le_add_right a j)
    (hOpens.of_get_eq (get_eq_of_drop_eq hDrop j).symm)

/- Changes of lines that neither braces nor markers show. -/
theorem Covered.congr
    (hBalance : ∀ j,
      Line.braceBalance (get left j) =
        Line.braceBalance (get right j))
    (hOpens : ∀ j, Opens rule left j → Opens rule right j)
    (hMarker : ∀ j, Text.trim (get left j) = marker →
      Text.trim (get right j) = marker)
    (hCovered : Covered rule marker left n i) :
    Covered rule marker right n i := by
  have hClose := Block.close?_congr hBalance
  cases hCovered with
  | marked hLess hAbove =>
      exact .marked hLess (hMarker _ hAbove)
  | endless hNone =>
      rw [hClose] at hNone
      exact .endless hNone
  | nested k hLe hOther hHolds =>
      unfold Holds at hHolds
      rw [hClose, hClose] at hHolds
      exact .nested k hLe (hOpens k hOther) hHolds

theorem Tidy.congr
    (hBalance : ∀ j,
      Line.braceBalance (get left j) =
        Line.braceBalance (get right j))
    (hOpens : ∀ j, Opens rule left j ↔ Opens rule right j)
    (hMarker : ∀ j, Text.trim (get left j) = marker →
      Text.trim (get right j) = marker)
    (hTidy : Tidy rule marker left n) :
    Tidy rule marker right n :=
  fun i hFrom hOther =>
    (hTidy i hFrom ((hOpens i).mpr hOther)).congr hBalance
      (fun j => (hOpens j).mp) hMarker

theorem hasMarkerAbove_iff :
    hasMarkerAbove lines i marker = true ↔
      0 < i ∧ Text.trim (get lines (i - 1)) = marker := by
  cases i with
  | zero =>
      exact iff_of_false Bool.false_ne_true (by omega)
  | succ above =>
      unfold hasMarkerAbove
      rw [beq_iff_eq, Nat.add_sub_cancel]
      exact (and_iff_right (Nat.succ_pos above)).symm

------------------------------------------------------------
-- Lines That Come and Go
------------------------------------------------------------

/- A marker that closes no block is no closing line. -/
theorem trim_ne_marker
    (hMarker : 0 ≤ Line.braceBalance marker)
    {line : Line}
    (hLine : Line.braceBalance line < 0) :
    Text.trim line ≠ marker := by
  rintro rfl
  rw [Line.braceBalance_trim] at hMarker
  omega

section Erase

variable {start stop : Nat}
variable (hMarker : 0 ≤ Line.braceBalance marker)
variable (hClose : Block.close? lines start = some stop)
variable
  (hStop : Line.braceBalance (get lines stop) = -1)

include hClose hStop

/- The end of a block is no deeper than the lines inside. -/
theorem depth_le_of_inside
    (hStart : start < i)
    (hLess : i < stop) :
    depth lines stop ≤ depth lines i := by
  rcases Block.close?_eq_some_iff.mp hClose with
    ⟨_, hEnd, hOpen⟩
  have hLast := depth_succ lines stop
  have hInside := hOpen i hStart hLess.le
  omega

/- So a block opened inside closes in front of the end. -/
theorem close?_lt_of_inside
    {last : Nat}
    (hStart : start < i)
    (hLess : i < stop)
    (hOpens : Opens rule lines i)
    (hInner : Block.close? lines i = some last) :
    last < stop :=
  Block.close?_lt_of_depth_le hInner hOpens.braceBalance
    hLess (depth_le_of_inside hClose hStop hStart hLess)

include hMarker

/- So what is below it is covered by lines below it. -/
theorem Tidy.below
    (hTidy : Tidy rule marker lines (start + 1)) :
    Tidy rule marker lines (stop + 1) := by
  have hLess := Block.lt_close? hClose
  intro i hFrom hOpens
  cases hTidy i (by omega) hOpens with
  | marked _ hAbove =>
      refine .marked ?_ hAbove
      by_contra hNext
      rw [show i - 1 = stop by omega] at hAbove
      exact trim_ne_marker hMarker (by omega) hAbove
  | endless hNone => exact .endless hNone
  | nested k hLe hOther hHolds =>
      refine .nested k ?_ hOther hHolds
      rcases hHolds with ⟨_, _, hLater, _⟩ |
        ⟨last, hLast, _, hReach⟩
      · omega
      · by_contra hEarlier
        by_cases hEnd : k = stop
        · have hBalance := hOther.braceBalance
          rw [hEnd, hStop] at hBalance
          exact absurd hBalance (by decide)
        · have hInside :=
            close?_lt_of_inside hClose hStop
              (show start < k by omega) (by omega) hOther
              hLast
          omega

/-
  The line that closes a block may go.  Blocks opened inside
  close in front of it, and so they do without it; whatever
  is below it has its lines as before; and no block opened
  inside reaches from the one part to the other.
-/
theorem Tidy.eraseIdx
    (hTidy : Tidy rule marker lines (start + 1)) :
    Tidy rule marker (lines.eraseIdx stop) (start + 1) := by
  have hLess := Block.lt_close? hClose
  have hKept : ∀ j, j < stop →
      get (lines.eraseIdx stop) j = get lines j :=
    fun j hj => get_eraseIdx_of_lt lines hj
  have hSame : ∀ {j last}, last < stop →
      (Block.close? (lines.eraseIdx stop) j = some last ↔
        Block.close? lines j = some last) := by
    intro j last hlast
    have hWindow : ∀ k, k ≤ last →
        get (lines.eraseIdx stop) k = get lines k :=
      fun k hk => hKept k (by omega)
    exact ⟨Block.close?_of_get_eq hWindow,
      Block.close?_of_get_eq fun k hk =>
        (hWindow k hk).symm⟩
  have hBelow :
      Tidy rule marker (lines.eraseIdx stop) stop :=
    (hTidy.below hMarker hClose hStop).shift
      (drop_eraseIdx lines le_rfl).symm
  apply hBelow.of_le hLess
  intro i hFrom hInside hOpens
  have hOld : Opens rule lines i :=
    hOpens.of_get_eq (hKept i hInside).symm
  cases hTidy i hFrom hOld with
  | marked hMore hAbove =>
      refine .marked hMore ?_
      rw [hKept _ (by omega)]
      exact hAbove
  | endless hNone =>
      refine .endless ?_
      cases hInner :
          Block.close? (lines.eraseIdx stop) i with
      | none => rfl
      | some last =>
          have hLast : last < stop := by
            apply Block.close?_lt_of_depth_le hInner
              hOpens.braceBalance hInside
            rw [depth_eraseIdx_of_le lines le_rfl,
              depth_eraseIdx_of_le lines hInside.le]
            exact depth_le_of_inside hClose hStop hFrom
              hInside
          rw [hSame hLast, hNone] at hInner
          cases hInner
  | nested k hLe hOther hHolds =>
      have hHeld : ∀ {a b}, start < a → a < stop →
          Opens rule lines a → Holds lines a b →
          b < stop ∧ Holds (lines.eraseIdx stop) a b := by
        rintro a b hStart hEnd hOpener ⟨last, hLast, hOrder⟩
        have hShort :=
          close?_lt_of_inside hClose hStop hStart hEnd
            hOpener hLast
        exact ⟨by omega, last, (hSame hShort).mpr hLast,
          hOrder⟩
      rcases hHolds with hHolds | hHolds
      · rcases hHeld hFrom hInside hOld hHolds with
          ⟨hEnd, hNext⟩
        exact .nested k hLe
          (hOther.of_get_eq (hKept k hEnd)) (.inl hNext)
      · have hEarlier : k < i := by
          rcases hHolds with ⟨_, _, hOrder, _⟩
          exact hOrder
        exact .nested k hLe
          (hOther.of_get_eq (hKept k (by omega)))
          (.inr (hHeld hLe (by omega) hOther hHolds).2)

end Erase

end Lines

------------------------------------------------------------
-- Repairs
------------------------------------------------------------

namespace Method

/-
  A body without a declaration, even if other white space
  stands in front of its lines.
-/
def Vacant
    (rule : Rule)
    (lines : Lines)
    (start stop : Nat) : Prop :=
  ∀ i, start < i → i ≤ stop →
    opener? rule (Text.trimLeft (Lines.get lines i)) = none

/- No white space makes a line a declaration. -/
theorem Vacant.not_opens
    {rule : Rule}
    {lines : Lines}
    {start stop i : Nat}
    (hVacant : Vacant rule lines start stop)
    (hStart : start < i)
    (hStop : i ≤ stop) :
    ¬Lines.Opens rule lines i := by
  have hNone :=
    opener?_append_left
      (Text.allBlank_leading (Lines.get lines i))
      (hVacant i hStart hStop)
  rw [Text.leading_append_trimLeft] at hNone
  unfold Lines.Opens
  rw [hNone]
  decide

end Method

namespace Repair

open Lines

/-
  What a repair keeps.  Closing lines are only dropped when
  no wrapper is left to collapse, and none is left for good;
  until then the body is the one that the method had.
-/
structure Safe
    (rule : Rule)
    (marker : Line)
    (start : Nat)
    (lines : Lines) : Prop where
  opens : Opens rule lines start
  tidy : Tidy rule marker lines (start + 1)
  body :
    collapse? rule start lines = none ∨
      ∃ stop, Block.close? lines start = some stop ∧
        Method.Vacant rule lines start stop ∧
        Tidy rule marker lines (stop + 1)

variable {rule : Rule}
variable {marker : Line}
variable {start stop : Nat}
variable {lines next : Lines}

theorem safe_of_vacant
    (hOpens : Opens rule lines start)
    (hClose : Block.close? lines start = some stop)
    (hVacant : Method.Vacant rule lines start stop)
    (hTidy : Tidy rule marker lines (stop + 1)) :
    Safe rule marker start lines := by
  refine ⟨hOpens, ?_, .inr ⟨stop, hClose, hVacant, hTidy⟩⟩
  apply hTidy.of_le (Nat.succ_le_succ
    (Block.lt_close? hClose).le)
  intro i hStart hStop hInside
  exact absurd hInside
    (hVacant.not_opens hStart (Nat.lt_succ_iff.mp hStop))

/- A wrapper is taken out of a body without declarations. -/
theorem Safe.collapse?
    (hSafe : Safe rule marker start lines)
    (hCollapse :
      Repair.collapse? rule start lines = some next) :
    Safe rule marker start next := by
  rcases hSafe.body with hNone | ⟨stop, hClose, hVacant,
      hTidy⟩
  · rw [hNone] at hCollapse
    cases hCollapse
  · have hOpens :=
      hSafe.opens.of_get_eq (get_of_collapse? le_rfl hCollapse)
    rcases collapse?_eq_some_iff.mp hCollapse with
      ⟨_, first, pair, hEnd, hFirst, _, hPair, hOuter, rfl⟩
    rw [hClose, Option.some.injEq] at hEnd
    subst hEnd
    have hOrder := Wrapper.order_of_stackedAt? hPair
    have hStart := le_nextFilled? hFirst
    have hSpans :=
      spans_collapsed ⟨hClose, hSafe.opens⟩ hPair hStart
        hOuter
    apply safe_of_vacant hOpens hSpans.closes
    · intro i hi hiStop
      rcases exists_trimLeft_get_collapsed lines first
          hOrder.2.1 i with
        ⟨j, hLe, hMost, hSame⟩
      rw [hSame]
      exact hVacant j (by omega) (by omega)
    · apply hTidy.shift
      rw [drop_collapsed hOrder.2.1 (by omega)]
      congr 1
      omega

/- A closing line is dropped when no wrapper is left. -/
theorem Safe.dropSurplus?
    (hMarker : 0 ≤ Line.braceBalance marker)
    (hSafe : Safe rule marker start lines)
    (hNone : Repair.collapse? rule start lines = none)
    (hDrop :
      Repair.dropSurplus? rule start lines = some next) :
    Safe rule marker start next := by
  have hAfter :=
    collapse?_of_dropSurplus? hSafe.opens hNone hDrop
  have hOpens :=
    hSafe.opens.of_get_eq (get_of_dropSurplus? le_rfl hDrop)
  rcases dropSurplus?_eq_some_iff.mp hDrop with
    ⟨stop, last, hClose, _, hSurplus, rfl⟩
  have hCloses :=
    (Wrapper.surplusClose?_eq_some_iff.mp hSurplus).2.2.1
  exact ⟨hOpens,
    hSafe.tidy.eraseIdx hMarker hClose
      (Rule.braceBalance_of_closesEither hCloses),
    .inl hAfter⟩

theorem tidy_settle
    (hMarker : 0 ≤ Line.braceBalance marker)
    (hSafe : Safe rule marker start lines) :
    Tidy rule marker (settle rule start lines).1
      (start + 1) := by
  revert hSafe
  apply settle_induction (motive := fun before result =>
    Safe rule marker start before →
      Tidy rule marker result.1 (start + 1))
  · exact fun _ _ hCollapse hNext hSafe =>
      hNext (hSafe.collapse? hCollapse)
  · exact fun _ _ hNone hDrop hNext hSafe =>
      hNext (hSafe.dropSurplus? hMarker hNone hDrop)
  · exact fun _ _ _ hSafe => hSafe.tidy

/- Closing lines are no declarations and no markers. -/
theorem tidy_normalize
    {n : Nat}
    (hMarker : 0 ≤ Line.braceBalance marker)
    (hTidy : Tidy rule marker lines n) :
    Tidy rule marker (normalize rule start lines).1 n := by
  cases hClose : Block.close? lines start with
  | none =>
      unfold normalize
      rw [hClose]
      exact hTidy
  | some stop =>
      have hChange : ∀ j,
          get (normalize rule start lines).1 j =
              get lines j ∨
            Line.braceBalance (get lines j) = -1 ∧
              Line.braceBalance
                  (get (normalize rule start lines).1 j) =
                -1 := by
        intro j
        rw [get_normalize hClose]
        split
        · rename_i hTarget
          right
          rw [Line.braceBalance_append,
            Line.braceBalance_of_allBlank
              (Text.allBlank_leading _),
            rule.wrapClose_balance]
          exact ⟨Rule.braceBalance_of_closesEither
            (Rule.closesEither_of_closesAnnotated
              hTarget.2), rfl⟩
        · exact .inl rfl
      have hNot : ∀ {other : Lines} {j : Nat},
          Line.braceBalance (get other j) = -1 →
          ¬Opens rule other j := by
        intro other j hBalance hOpens
        rw [hOpens.braceBalance] at hBalance
        exact absurd hBalance (by decide)
      apply hTidy.congr
      · intro j
        rcases hChange j with hSame | ⟨hOld, hNew⟩
        · rw [hSame]
        · rw [hOld, hNew]
      · intro j
        rcases hChange j with hSame | ⟨hOld, hNew⟩
        · exact ⟨fun hOpens => hOpens.of_get_eq hSame,
            fun hOpens => hOpens.of_get_eq hSame.symm⟩
        · exact iff_of_false (hNot hOld) (hNot hNew)
      · intro j hTrim
        rcases hChange j with hSame | ⟨hOld, _⟩
        · rw [hSame]
          exact hTrim
        · exact absurd hTrim
            (trim_ne_marker hMarker (by omega))

end Repair

------------------------------------------------------------
-- Methods
------------------------------------------------------------

namespace Method

open Lines

variable {rule : Rule}
variable {marker : Line}
variable {method : Method}
variable {lines : Lines}

/- Below the method a wrapper moves all lines down by two. -/
theorem drop_wrap
    (rule : Rule)
    (reindent : Bool)
    (hLess : method.start < method.stop)
    (hStop : method.stop < lines.length) :
    (method.wrap rule reindent lines).1.drop
        (method.stop + 3) =
      lines.drop (method.stop + 1) := by
  have hBody :=
    length_shifted reindent method.unit
      (method.interior lines)
  have hInterior :
      (method.interior lines).length =
        method.stop - method.start - 1 := by
    unfold interior
    rw [List.length_take, List.length_drop]
    omega
  unfold wrap
  simp only
  generalize
    (if reindent = true then
        (method.interior lines).map (Line.shift method.unit)
      else
        method.interior lines) =
      body at hBody ⊢
  generalize hFront :
    lines.take (method.start + 1) ++
        (method.indent ++ method.unit ++ rule.wrapOpen) ::
          body =
      front
  have hLength : front.length = method.stop + 1 := by
    rw [← hFront, List.length_append, List.length_take,
      List.length_cons]
    omega
  rw [show method.stop + 3 = front.length + 2 by omega,
    List.drop_length_add_append, List.drop_succ_cons,
    List.drop_drop]

theorem covered_rewriteBody
    (hMarker : 0 ≤ Line.braceBalance marker)
    (reindent : Bool)
    (hSpans : Spans rule lines method.start method.stop)
    (hIndent : Text.allBlank method.indent = true)
    (hUnit : Text.allBlank method.unit = true)
    (hVacant :
      Vacant rule lines method.start method.stop)
    (hTidy : Tidy rule marker lines (method.stop + 1))
    {i : Nat}
    (hStart : method.start < i)
    (hOpens :
      Opens rule
        (method.rewriteBody rule reindent lines).lines i) :
    Covered rule marker
      (method.rewriteBody rule reindent lines).lines
      method.start i := by
  have hLess := hSpans.lt
  have hStop := Block.close?_lt_length hSpans.closes
  have hSafe :=
    Repair.safe_of_vacant hSpans.opener hSpans.closes
      hVacant hTidy
  have hRepair :
      Tidy rule marker (method.repair rule lines).1
        (method.start + 1) :=
    Repair.tidy_normalize hMarker
      (Repair.tidy_settle hMarker hSafe)
  unfold rewriteBody at hOpens ⊢
  cases hState : method.bodyState rule lines with
  | unwrapped =>
      rw [hState] at hOpens
      simp only at hOpens ⊢
      have hClose :
          Block.close? (method.wrap rule reindent lines).1
              method.start =
            some (method.stop + 2) :=
        close?_wrap reindent hSpans hIndent hUnit
      by_cases hInside : i ≤ method.stop + 2
      · have hOwn :
            get (method.wrap rule reindent lines).1
                method.start =
              get lines method.start :=
          get_wrap_of_le reindent (hLess.trans hStop) le_rfl
        exact .nested method.start le_rfl
          (Opens.of_get_eq hSpans.opener hOwn)
          (.inr ⟨_, hClose, hStart, hInside⟩)
      · have hBelow :=
          hTidy.shift
            (drop_wrap rule reindent hLess hStop).symm
        exact (hBelow i (by omega) hOpens).mono (by omega)
  | canonical =>
      rw [hState] at hOpens
      simp only at hOpens ⊢
      by_cases hInside : i ≤ method.stop
      · exact absurd hOpens
          (hVacant.not_opens hStart hInside)
      · exact (hTidy i (by omega) hOpens).mono (by omega)
  | legacy =>
      rw [hState] at hOpens
      exact (hRepair i hStart hOpens).mono (by omega)
  | doubled =>
      rw [hState] at hOpens
      exact (hRepair i hStart hOpens).mono (by omega)

section Marker

variable (hClear : rule.Clear)
variable (hSome : rule.marker = some marker)
variable (hMarker : 0 ≤ Line.braceBalance marker)
variable (hKept : rule.renamed marker = marker)

include hClear hKept

/- A declaration keeps all it covers when it is renamed. -/
theorem covered_set_renamed
    {start i : Nat}
    (hOpens : Opens rule lines start)
    (hCovered : Covered rule marker lines start i) :
    Covered rule marker
      (lines.set start (rule.renamed (get lines start)))
      start i := by
  have hGet : ∀ j,
      get (lines.set start (rule.renamed (get lines start)))
          j =
        if j = start then
          rule.renamed (get lines start)
        else
          get lines j := by
    intro j
    split
    · rename_i hStart
      rw [hStart, get_set_self hOpens.lt_length]
    · rename_i hNe
      exact get_set lines hNe _
  apply hCovered.congr
  · intro j
    rw [hGet]
    split
    · rename_i hStart
      rw [hStart, rule.braceBalance_renamed]
    · rfl
  · intro j hOther
    unfold Opens at hOther ⊢
    rw [hGet]
    split
    · rename_i hStart
      rw [opener?_renamed hClear, Option.isSome_map]
      exact hOpens
    · exact hOther
  · intro j hTrim
    rw [hGet]
    split
    · rename_i hStart
      rw [hStart] at hTrim
      rw [rule.trim_renamed, hTrim, hKept]
    · exact hTrim

omit hClear hKept

/- A marker that is looked at covers what is below it. -/
theorem covered_of_marked
    {start n i : Nat}
    (hAbove : Text.trim (get lines (start - 1)) = marker)
    (hCovered : ∀ i, start < i → Opens rule lines i →
      Covered rule marker lines start i)
    (hLess : n < start)
    (hFrom : start ≤ i)
    (hOpens : Opens rule lines i) :
    Covered rule marker lines n i := by
  by_cases hStart : i = start
  · rw [hStart]
    exact .marked hLess hAbove
  · exact (hCovered i (by omega) hOpens).mono hLess.le

/- A new marker covers the declaration that it is above. -/
theorem covered_insertIdx
    {start : Nat}
    {line : Line}
    (hLine : Text.trim line = marker)
    (hOpens : Opens rule lines start)
    (hCovered : ∀ i, start < i → Opens rule lines i →
      Covered rule marker lines start i)
    {i : Nat}
    (hFrom : start ≤ i)
    (hOther : Opens rule (lines.insertIdx start line) i) :
    Covered rule marker (lines.insertIdx start line) start
      i := by
  have hDrop := drop_insertIdx lines start line
  have hMoved :=
    hOpens.of_get_eq (get_eq_of_drop_eq hDrop.symm 0)
  by_cases hNew : i = start
  · subst hNew
    cases hClose :
        Block.close? (lines.insertIdx i line) i with
    | none => exact .endless hClose
    | some stop =>
        exact .nested (i + 1) (Nat.le_succ i) hMoved
          (.inl ⟨stop, hClose, Nat.lt_succ_self i,
            Block.lt_close? hClose⟩)
  · by_cases hNext : i = start + 1
    · subst hNext
      refine .marked (Nat.lt_succ_self start) ?_
      rw [Nat.add_sub_cancel,
        get_insertIdx_self hOpens.lt_length.le]
      exact hLine
    · obtain ⟨k, rfl⟩ :=
        Nat.exists_eq_add_of_le (show start + 1 ≤ i by omega)
      have hOld :=
        hOther.of_get_eq
          (get_eq_of_drop_eq hDrop k)
      have hShifted :=
        (hCovered (start + k) (by omega) hOld).shift
          hDrop.symm
      exact hShifted.mono (Nat.le_succ start)

include hClear hKept hSome hMarker

/-
  Where the declaration is once its marker is in place, and
  what covers the lines from the marker on.  A marker that
  was there already covers it only as one of the lines that
  are looked at.
-/
theorem exists_covered_renameDeclaration
    (hIndent : Text.allBlank method.indent = true)
    (hOpens : Opens rule lines method.start)
    (hCovered : ∀ i, method.start < i → Opens rule lines i →
      Covered rule marker lines method.start i) :
    let next := (method.renameDeclaration rule lines).1
    ∃ d, method.start ≤ d ∧ Opens rule next d ∧
      (∀ i, method.start ≤ i → i < d →
        0 ≤ Line.braceBalance (get next i)) ∧
      ∀ n, n ≤ method.start →
        (hasMarkerAbove lines method.start marker = true →
          n < method.start) →
        ∀ i, method.start ≤ i → Opens rule next i →
          Covered rule marker next n i := by
  intro next
  have hLength := hOpens.lt_length
  have hRenamed :
      Opens rule
        (lines.set method.start
          (rule.renamed (get lines method.start)))
        method.start := by
    unfold Opens
    rw [get_set_self hLength, opener?_renamed hClear,
      Option.isSome_map]
    exact hOpens
  have hBelow : ∀ i, method.start < i →
      Opens rule
          (lines.set method.start
            (rule.renamed (get lines method.start))) i →
        Covered rule marker
          (lines.set method.start
            (rule.renamed (get lines method.start)))
          method.start i := by
    intro i hStart hOther
    apply covered_set_renamed hClear hKept hOpens
    apply hCovered i hStart
    exact hOther.of_get_eq
      (get_set lines (by omega) _).symm
  cases hAbove :
      hasMarkerAbove lines method.start marker with
  | true =>
      have hNext :
          next =
            lines.set method.start
              (rule.renamed (get lines method.start)) := by
        unfold next
        rw [renameDeclaration_of_some method lines hSome]
        unfold insertMarker
        rw [hasMarkerAbove_set, hAbove, if_pos rfl]
      rw [hNext]
      refine ⟨method.start, le_rfl, hRenamed,
        fun i hFrom hLess => by omega, ?_⟩
      intro n _ hBefore i hFrom hOther
      rcases hasMarkerAbove_iff.mp hAbove with
        ⟨hPositive, hLine⟩
      apply covered_of_marked _ hBelow (hBefore rfl) hFrom
        hOther
      rw [get_set lines (by omega)]
      exact hLine
  | false =>
      have hLine :
          Text.trim (method.indent ++ marker) = marker := by
        rw [Text.trim_append_left marker hIndent]
        exact (rule.marker_trim marker hSome).2
      have hNext :
          next =
            (lines.set method.start
              (rule.renamed
                (get lines method.start))).insertIdx
                  method.start (method.indent ++ marker) := by
        unfold next
        rw [renameDeclaration_of_some method lines hSome]
        unfold insertMarker
        rw [hasMarkerAbove_set, hAbove,
          if_neg Bool.false_ne_true]
      rw [hNext]
      refine ⟨method.start + 1, Nat.le_succ _,
        hRenamed.of_get_eq (get_eq_of_drop_eq
          (drop_insertIdx _ _ _).symm 0), ?_, ?_⟩
      · intro i hFrom hLess
        rw [show i = method.start by omega,
          get_insertIdx_self hRenamed.lt_length.le,
          Line.braceBalance_append,
          Line.braceBalance_of_allBlank hIndent,
          Int.zero_add]
        exact hMarker
      · intro n hLe _ i hFrom hOther
        exact (covered_insertIdx hLine hRenamed hBelow hFrom
          hOther).mono hLe

/-
  Rewriting a method covers it and keeps what is below it
  covered.  Declarations above it are covered if their blocks
  did not end in front of the method, since then they reach
  as far as its declaration line.
-/
theorem tidy_rewrite
    (reindent : Bool)
    (hSpans : Spans rule lines method.start method.stop)
    (hIndent : Text.allBlank method.indent = true)
    (hUnit : Text.allBlank method.unit = true)
    (hVacant :
      Vacant rule lines method.start method.stop)
    (hTidy : Tidy rule marker lines (method.stop + 1))
    {n : Nat}
    (hLe : n ≤ method.start)
    (hCut : ∀ i, i + 1 = n →
      Text.trim (get lines i) ≠ marker)
    (hReach : ∀ i, n ≤ i → i < method.start →
      Opens rule lines i →
        ∀ last, Block.close? lines i = some last →
          method.start ≤ last) :
    Tidy rule marker (method.rewrite rule reindent lines).lines
      n := by
  have hStart :=
    hSpans.lt.trans (Block.close?_lt_length hSpans.closes)
  have hBody : ∀ i, i ≤ method.start →
      get (method.rewriteBody rule reindent lines).lines i =
        get lines i :=
    fun i hi => get_rewriteBody_of_le reindent hStart hi
  have hAbove : ∀ i, i < method.start →
      get (method.rewrite rule reindent lines).lines i =
        get lines i :=
    fun i hi => get_rewrite_of_lt reindent hStart hi
  rcases exists_covered_renameDeclaration hClear hSome
      hMarker hKept hIndent
      (Opens.of_get_eq hSpans.opener (hBody _ le_rfl))
      (fun i hi hOpens =>
        covered_rewriteBody hMarker reindent hSpans hIndent
          hUnit hVacant hTidy hi hOpens) with
    ⟨d, hFrom, hMoved, hBetween, hCovered⟩
  have hBefore :
      hasMarkerAbove
          (method.rewriteBody rule reindent lines).lines
          method.start marker = true →
        n < method.start := by
    intro hMarked
    rcases hasMarkerAbove_iff.mp hMarked with
      ⟨hPositive, hLine⟩
    rw [hBody _ (by omega)] at hLine
    by_contra hEqual
    exact hCut (method.start - 1) (by omega) hLine
  intro i hi hOpens
  by_cases hEarlier : i < method.start
  · have hOld := hOpens.of_get_eq (hAbove i hEarlier).symm
    cases hClose :
        Block.close?
          (method.rewrite rule reindent lines).lines i with
    | none => exact .endless hClose
    | some last =>
        refine .nested d (hLe.trans hFrom) hMoved
          (.inl ⟨last, hClose, by omega, ?_⟩)
        by_contra hShort
        by_cases hLast : last < method.start
        · have hReached :=
            hReach i hi hEarlier hOld last
              (Block.close?_of_get_eq
                (fun j hj => hAbove j (by omega)) hClose)
          omega
        · have hPositive :
              0 ≤ Line.braceBalance
                (get (method.rewrite rule reindent
                  lines).lines last) :=
            hBetween last (by omega) (by omega)
          have hNegative :=
            (Spans.mk hClose hOpens).braceBalance_stop_lt
          omega
  · exact hCovered n hLe hBefore i (by omega) hOpens

/-
  Rewriting all methods leaves every declaration covered.
  The methods are rewritten from the last to the first, and
  what is looked at grows with each of them: from the line
  behind the method above it on, a closing line, which is no
  marker for the one below.
-/
theorem tidy_rewriteAll
    (reindent : Bool)
    (methods : List Method)
    (hOrder : methods.Pairwise fun earlier later =>
      earlier.stop < later.start)
    (hMethods : ∀ method ∈ methods,
      Spans rule lines method.start method.stop ∧
        Text.allBlank method.indent = true ∧
        Text.allBlank method.unit = true ∧
        Vacant rule lines method.start method.stop)
    {n : Nat}
    (hLe : ∀ method ∈ methods, n ≤ method.start)
    (hCut : ∀ i, i + 1 = n →
      Text.trim (get lines i) ≠ marker)
    (hLoose : ∀ i, n ≤ i → Opens rule lines i →
      (∃ method ∈ methods, method.start = i) ∨
        Block.close? lines i = none) :
    Tidy rule marker
      (rewriteAll rule reindent methods lines).lines n := by
  induction methods generalizing n with
  | nil =>
      intro i hi hOpens
      rcases hLoose i hi hOpens with
        ⟨_, hMethod, _⟩ | hNone
      · cases hMethod
      · exact .endless hNone
  | cons method methods ih =>
      rcases List.forall_mem_cons.mp hMethods with
        ⟨⟨hSpans, hIndent, hUnit, hVacant⟩, hRest⟩
      rcases List.pairwise_cons.mp hOrder with
        ⟨hFirst, hLater⟩
      have hLess := hSpans.lt
      have hGet : ∀ i, i ≤ method.stop →
          get (rewriteAll rule reindent methods lines).lines
              i =
            get lines i :=
        fun i hi =>
          get_rewriteAll_of_le reindent hOrder
            (fun other hOther => (hRest other hOther).1) hi
      have hTidy :
          Tidy rule marker
            (rewriteAll rule reindent methods lines).lines
            (method.stop + 1) := by
        apply ih hLater hRest
        · exact fun other hOther => hFirst other hOther
        · intro i hi
          rw [show i = method.stop by omega]
          exact trim_ne_marker hMarker
            hSpans.braceBalance_stop_lt
        · intro i hi hOpens
          have hOwn := hLe method List.mem_cons_self
          rcases hLoose i (by omega) hOpens with
            ⟨other, hOther, hStart⟩ | hNone
          · rcases List.mem_cons.mp hOther with
              rfl | hOther
            · omega
            · exact .inl ⟨other, hOther, hStart⟩
          · exact .inr hNone
      apply tidy_rewrite hClear hSome hMarker hKept reindent
        (hSpans.of_get_eq hGet) hIndent hUnit ?_ hTidy
        (hLe method List.mem_cons_self)
      · intro i hi
        have hOwn := hLe method List.mem_cons_self
        rw [hGet i (by omega)]
        exact hCut i hi
      · intro i hi hEarlier hOpens last hClose
        by_contra hShort
        have hOld := hOpens.of_get_eq
          (hGet i (by omega)).symm
        rcases hLoose i hi hOld with
          ⟨other, hOther, hStart⟩ | hNone
        · rcases List.mem_cons.mp hOther with
            rfl | hOther
          · omega
          · have := hFirst other hOther
            omega
        · rw [Block.close?_of_get_eq
            (fun j hj => hGet j (by omega)) hClose] at hNone
          cases hNone
      · intro i hi hStop
        rw [hGet i hStop]
        exact hVacant i hi hStop

end Marker

end Method

end NotifyScope
