import NotifyScope.Proofs.Diff.Hunks
import NotifyScope.Proofs.Diff.Patch

/-
  The patch that hunks show.  Its entries are the lines of the
  segments, and they are those that stand where the hunks
  lead.  The ranges in the headers are taken from the first
  and from the last segment of a hunk, whose positions need
  not be right on both sides; where the ranges are true, and
  only there, the patch turns the one text into the other.

  Key definitions include:
    * `Diff.Segment.entries`
    * `Diff.Hunk.ranges`
    * `Diff.Hunk.change`
    * `Diff.HaveTrueRanges`

  Main declarations:
    * `Diff.drop_eq_oldLines_append`
    * `Diff.drop_eq_newLines_append`
    * `Diff.exists_kept`
    * `Diff.turns_iff_haveTrueRanges`
-/

namespace NotifyScope

open Patch (Range Entry Change Turns)

namespace Patch.Entry

@[simp] theorem linesWithout_append
    (kind : Diff.Kind)
    (front back : List Entry) :
    linesWithout kind (front ++ back) =
      linesWithout kind front ++ linesWithout kind back := by
  simp [linesWithout]

/- Lines of another kind stay, and those of the kind go. -/
@[simp] theorem linesWithout_map
    (kind kind' : Diff.Kind)
    (lines : Lines) :
    linesWithout kind (lines.map (Entry.mk kind')) =
      if kind' = kind then [] else lines := by
  unfold linesWithout
  induction lines with
  | nil => simp
  | cons line lines ih =>
      by_cases hKind : kind' = kind
      · simp [hKind]
      · simpa [hKind] using ih

end Patch.Entry

namespace Diff

variable {before after : Lines}
variable {start stop : Place}

------------------------------------------------------------
-- Lines
------------------------------------------------------------

/- Lines with the newlines that they are compared with. -/
def ended
    (lines : Lines) : Array Text :=
  (lines.map (· ++ ['\n'])).toArray

@[simp] theorem size_ended
    (lines : Lines) :
    (ended lines).size = lines.length := by
  simp [ended]

/- Common lines are the same without their newlines. -/
theorem take_drop_eq_of_common
    {count : Nat}
    (hCommon : Common (ended before) (ended after) start count) :
    (before.drop start.old).take count =
      (after.drop start.new).take count := by
  apply List.ext_getElem?
  intro i
  by_cases hi : i < count
  · have hLine := hCommon i hi
    simp only [ended, List.getElem?_toArray, List.getElem?_map]
      at hLine
    rw [List.getElem?_take_of_lt hi, List.getElem?_take_of_lt hi,
      List.getElem?_drop, List.getElem?_drop]
    refine Option.map_injective ?_ hLine
    exact fun _ _ hEq => List.append_cancel_right hEq
  · simp only [List.getElem?_take, if_neg hi]

------------------------------------------------------------
-- Entries
------------------------------------------------------------

/- The lines that are shown of a segment. -/
def Segment.entries
    (before after : Lines)
    (segment : Segment) : List Entry :=
  let lines :=
    (before.drop segment.old).take segment.oldLength
  if segment.isEqual then
    lines.map (Entry.mk .equal)
  else
    lines.map (Entry.mk .delete) ++
      ((after.drop segment.new).take segment.newLength).map
        (Entry.mk .insert)

namespace Segment.Step

variable {segment : Segment}
variable
  (hStep :
    segment.Step (ended before) (ended after) start stop)
include hStep

/- Only where there are lines does their place matter. -/
theorem take_old :
    (before.drop segment.old).take segment.oldLength =
      (before.drop start.old).take segment.oldLength := by
  cases hLength : segment.oldLength with
  | zero => simp
  | succ length =>
      rw [hStep.old_eq (by omega)]

theorem take_new :
    (after.drop segment.new).take segment.newLength =
      (after.drop start.new).take segment.newLength := by
  cases hLength : segment.newLength with
  | zero => simp
  | succ length =>
      rw [hStep.new_eq (by omega)]

/- A segment shows the old lines that it leads over. -/
theorem drop_old :
    before.drop start.old =
      Entry.linesWithout .insert
          (segment.entries before after) ++
        before.drop stop.old := by
  have hLines :
      Entry.linesWithout .insert
          (segment.entries before after) =
        (before.drop start.old).take segment.oldLength := by
    unfold Segment.entries
    rw [hStep.take_old]
    cases segment.isEqual with
    | false =>
        rw [if_neg Bool.false_ne_true,
          Entry.linesWithout_append, Entry.linesWithout_map,
          Entry.linesWithout_map, if_pos rfl, if_neg nofun,
          List.append_nil]
    | true =>
        rw [if_pos rfl, Entry.linesWithout_map, if_neg nofun]
  rw [hLines, hStep.stop_eq, Place.below_old, ← List.drop_drop,
    List.take_append_drop]

/- A segment shows the new lines that it leads over. -/
theorem drop_new :
    after.drop start.new =
      Entry.linesWithout .delete
          (segment.entries before after) ++
        after.drop stop.new := by
  have hLines :
      Entry.linesWithout .delete
          (segment.entries before after) =
        (after.drop start.new).take segment.newLength := by
    unfold Segment.entries
    cases hEqual : segment.isEqual with
    | false =>
        rw [hStep.take_new, if_neg Bool.false_ne_true,
          Entry.linesWithout_append, Entry.linesWithout_map,
          Entry.linesWithout_map, if_pos rfl, if_neg nofun,
          List.nil_append]
    | true =>
        obtain ⟨hLength, hCommon⟩ := hStep.common hEqual
        rw [hStep.take_old, take_drop_eq_of_common hCommon,
          hLength, if_pos rfl, Entry.linesWithout_map,
          if_neg nofun]
  rw [hLines, hStep.stop_eq, Place.below_new, ← List.drop_drop,
    List.take_append_drop]

end Segment.Step

------------------------------------------------------------
-- Hunks
------------------------------------------------------------

namespace Segment

/- The range of the old text that a segment names. -/
def oldRange
    (segment : Segment) : Range :=
  { above := segment.old, length := segment.oldLength }

/- The range of the new text that a segment names. -/
def newRange
    (segment : Segment) : Range :=
  { above := segment.new, length := segment.newLength }

end Segment

/- From the start of a range to the stop of another one. -/
def span
    (first last : Range) : Range :=
  { above := first.above
    length := last.above + last.length - first.above }

namespace Hunk

/- The ranges that a hunk has in its header. -/
def ranges
    (hunk : Hunk) : Range × Range :=
  match hunk.head?, hunk.getLast? with
  | some first, some last =>
      (span first.oldRange last.oldRange,
        span first.newRange last.newRange)
  | _, _ => (⟨0, 0⟩, ⟨0, 0⟩)

/- How many old lines a hunk has. -/
def oldCount
    (hunk : Hunk) : Nat :=
  hunk.foldr
    (fun segment count => segment.oldLength + count) 0

/- How many new lines a hunk has. -/
def newCount
    (hunk : Hunk) : Nat :=
  hunk.foldr
    (fun segment count => segment.newLength + count) 0

/- The change that a hunk shows. -/
def change
    (before after : Lines)
    (hunk : Hunk) : Change :=
  { old := hunk.ranges.1
    new := hunk.ranges.2
    entries := hunk.flatMap (Segment.entries before after) }

@[simp] theorem change_old
    (before after : Lines)
    (hunk : Hunk) :
    (hunk.change before after).old = hunk.ranges.1 := rfl

@[simp] theorem change_new
    (before after : Lines)
    (hunk : Hunk) :
    (hunk.change before after).new = hunk.ranges.2 := rfl

end Hunk

/-
  Whether hunks have true ranges in their headers.  From the
  hunk above to the next one it is as far in the new text as
  in the old one, and a range is as long as its hunk.
-/
def HaveTrueRanges : List Hunk → Place → Prop
  | [], _ => True
  | hunk :: hunks, place =>
      let between := hunk.ranges.1.above - place.old
      let start := place.below between between
      hunk.ranges =
          (⟨start.old, hunk.oldCount⟩,
            ⟨start.new, hunk.newCount⟩) ∧
        HaveTrueRanges hunks
          (start.below hunk.oldCount hunk.newCount)

instance decidableHaveTrueRanges :
    (hunks : List Hunk) → (place : Place) →
      Decidable (HaveTrueRanges hunks place)
  | [], _ => instDecidableTrue
  | _ :: hunks, _ =>
      let _ := decidableHaveTrueRanges hunks
      instDecidableAnd

section Hunk

variable {hunk : Hunk}

section Course

variable {old new : Array Text}
variable (hCourse : Course old new hunk start stop)
include hCourse

theorem stop_eq_of_course :
    stop = start.below hunk.oldCount hunk.newCount := by
  induction hunk generalizing start with
  | nil => exact hCourse.symm
  | cons segment hunk ih =>
      obtain ⟨place, hStep, hRest⟩ := hCourse
      rw [ih hRest, hStep.stop_eq, Place.below_below]
      simp [Hunk.oldCount, Hunk.newCount]

/- A hunk starts at the right line of one text at least. -/
theorem above_eq_of_course
    (hNe : hunk ≠ []) :
    hunk.ranges.1.above = start.old ∨
      hunk.ranges.2.above = start.new := by
  obtain ⟨first, rest, rfl⟩ := List.exists_cons_of_ne_nil hNe
  obtain ⟨place, hStep, -⟩ := hCourse
  have hRanges :
      (Hunk.ranges (first :: rest)).1.above = first.old ∧
        (Hunk.ranges (first :: rest)).2.above = first.new := by
    unfold Hunk.ranges
    rw [List.head?_cons, List.getLast?_cons]
    exact ⟨rfl, rfl⟩
  rw [hRanges.1, hRanges.2]
  by_cases hOld : 0 < first.oldLength
  · exact .inl (hStep.old_eq hOld)
  · have hPos := hStep.pos
    exact .inr (hStep.new_eq (by omega))

end Course

section Course

variable
  (hCourse :
    Course (ended before) (ended after) hunk start stop)
include hCourse

/- A hunk shows the old lines that it leads over. -/
theorem drop_eq_oldLines_append :
    before.drop start.old =
      (hunk.change before after).oldLines ++
        before.drop stop.old := by
  unfold Change.oldLines Hunk.change
  induction hunk generalizing start with
  | nil =>
      obtain rfl : start = stop := hCourse
      rfl
  | cons segment hunk ih =>
      obtain ⟨place, hStep, hRest⟩ := hCourse
      rw [hStep.drop_old, ih hRest, List.flatMap_cons,
        Entry.linesWithout_append, List.append_assoc]

/- A hunk shows the new lines that it leads over. -/
theorem drop_eq_newLines_append :
    after.drop start.new =
      (hunk.change before after).newLines ++
        after.drop stop.new := by
  unfold Change.newLines Hunk.change
  induction hunk generalizing start with
  | nil =>
      obtain rfl : start = stop := hCourse
      rfl
  | cons segment hunk ih =>
      obtain ⟨place, hStep, hRest⟩ := hCourse
      rw [hStep.drop_new, ih hRest, List.flatMap_cons,
        Entry.linesWithout_append, List.append_assoc]

/- So there are as many of them as the hunk has. -/
theorem length_oldLines_of_course
    (hStop : stop.old ≤ before.length) :
    (hunk.change before after).oldLines.length =
      hunk.oldCount := by
  have hLength :=
    congrArg List.length (drop_eq_oldLines_append hCourse)
  have hCount := stop_eq_of_course hCourse
  rw [Place.ext_iff] at hCount
  simp only [List.length_drop, List.length_append,
    Place.below_old] at hLength hCount
  omega

theorem length_newLines_of_course
    (hStop : stop.new ≤ after.length) :
    (hunk.change before after).newLines.length =
      hunk.newCount := by
  have hLength :=
    congrArg List.length (drop_eq_newLines_append hCourse)
  have hCount := stop_eq_of_course hCourse
  rw [Place.ext_iff] at hCount
  simp only [List.length_drop, List.length_append,
    Place.below_new] at hLength hCount
  omega

end Course

end Hunk

/- Hunks lead downwards. -/
theorem Covers.le
    {old new : Array Text}
    {hunks : List Hunk}
    (hCovers : Covers old new hunks start stop) :
    start.old ≤ stop.old ∧ start.new ≤ stop.new := by
  induction hCovers with
  | rest => simp
  | hunk _ _ hCourse _ ih =>
      rw [stop_eq_of_course hCourse] at ih
      simp only [Place.below_below, Place.below_old,
        Place.below_new] at ih
      omega

------------------------------------------------------------
-- Patches
------------------------------------------------------------

section Hunk

variable {place : Place}
variable {skipped : Nat}
variable {hunk : Hunk}
variable {hunks : List Hunk}
variable {patch : Patch}

section Course

variable {old new : Array Text}

/-
  Where common lines stand above a hunk, its true ranges are
  behind as many lines.
-/
theorem haveTrueRanges_cons_iff
    (hCourse :
      Course old new hunk (start.below skipped skipped) place)
    (hNe : hunk ≠ []) :
    HaveTrueRanges (hunk :: hunks) start ↔
      hunk.ranges =
          (⟨start.old + skipped, hunk.oldCount⟩,
            ⟨start.new + skipped, hunk.newCount⟩) ∧
        HaveTrueRanges hunks place := by
  have hAbove := above_eq_of_course hCourse hNe
  rw [Place.below_old, Place.below_new] at hAbove
  rw [stop_eq_of_course hCourse, HaveTrueRanges]
  constructor
  · rintro ⟨hRanges, hRest⟩
    have hBetween :
        hunk.ranges.1.above - start.old = skipped := by
      have hOld := congrArg (·.1.above) hRanges
      have hNew := congrArg (·.2.above) hRanges
      simp only [Place.below_old, Place.below_new] at hOld hNew
      omega
    rw [hBetween] at hRanges hRest
    exact ⟨hRanges, hRest⟩
  · rintro ⟨hRanges, hRest⟩
    have hBetween :
        hunk.ranges.1.above - start.old = skipped := by
      rw [hRanges]
      exact Nat.add_sub_cancel_left _ _
    rw [hBetween]
    exact ⟨hRanges, hRest⟩

end Course

variable
  (hCommon :
    Common (ended before) (ended after) start skipped)
variable
  (hCourse :
    Course (ended before) (ended after) hunk
      (start.below skipped skipped) place)
variable (hOld : place.old ≤ before.length)
include hCommon hCourse hOld

/-
  Both texts go on with the same lines, then with those of the
  hunk, and then with what is below it.
-/
theorem exists_kept :
    ∃ kept,
      kept.length = skipped ∧
        before.drop start.old =
          kept ++ (hunk.change before after).oldLines ++
            before.drop place.old ∧
        after.drop start.new =
          kept ++ (hunk.change before after).newLines ++
            after.drop place.new := by
  have hPlace :=
    (Place.ext_iff.mp (stop_eq_of_course hCourse)).1
  refine ⟨(before.drop start.old).take skipped, ?_, ?_, ?_⟩
  · simp only [Place.below_old] at hPlace
    rw [List.length_take, List.length_drop]
    omega
  · rw [List.append_assoc, ← drop_eq_oldLines_append hCourse,
      Place.below_old, ← List.drop_drop, List.take_append_drop]
  · rw [List.append_assoc, ← drop_eq_newLines_append hCourse,
      take_drop_eq_of_common hCommon, Place.below_new,
      ← List.drop_drop, List.take_append_drop]

/-
  A hunk can only be whole and in its place if its ranges are
  true.
-/
theorem turns_cons_iff
    (hNe : hunk ≠ [])
    (hNew : place.new ≤ after.length) :
    (hunk.change before after).IsWhole ∧
        Turns start.old start.new
          (hunk.change before after :: patch)
          (before.drop start.old) (after.drop start.new) ↔
      hunk.ranges =
          (⟨start.old + skipped, hunk.oldCount⟩,
            ⟨start.new + skipped, hunk.newCount⟩) ∧
        Turns place.old place.new patch
          (before.drop place.old) (after.drop place.new) := by
  have hAbove := above_eq_of_course hCourse hNe
  have hOldCount := length_oldLines_of_course hCourse hOld
  have hNewCount := length_newLines_of_course hCourse hNew
  obtain ⟨hPlaceOld, hPlaceNew⟩ :=
    Place.ext_iff.mp (stop_eq_of_course hCourse)
  simp only [Place.below_old, Place.below_new]
    at hAbove hPlaceOld hPlaceNew
  obtain ⟨kept, rfl, hBefore, hAfter⟩ :=
    exists_kept hCommon hCourse hOld
  rw [Patch.turns_cons_iff, Change.IsWhole, hOldCount,
    hNewCount, Hunk.change_old, Hunk.change_new]
  constructor
  · rintro ⟨⟨hOldLength, hNewLength⟩, kept', behind, behind',
      hOldAbove, hNewAbove, hLines, hWritten, hTurns⟩
    have hLength : kept.length = kept'.length := by omega
    have hRanges :
        hunk.ranges =
          (⟨start.old + kept.length, hunk.oldCount⟩,
            ⟨start.new + kept.length, hunk.newCount⟩) := by
      rw [hLength, ← hOldAbove, ← hNewAbove, ← hOldLength,
        ← hNewLength]
    rw [hBefore, List.append_assoc, List.append_assoc] at hLines
    rw [hAfter, List.append_assoc, List.append_assoc]
      at hWritten
    obtain rfl :=
      List.append_cancel_left (List.append_inj hLines hLength).2
    obtain rfl :=
      List.append_cancel_left
        (List.append_inj hWritten hLength).2
    rw [hRanges] at hTurns
    rw [hPlaceOld, hPlaceNew] at hTurns ⊢
    exact ⟨hRanges, hTurns⟩
  · rintro ⟨hRanges, hTurns⟩
    rw [hRanges]
    refine ⟨⟨rfl, rfl⟩, kept, _, _, rfl, rfl, hBefore, hAfter,
      ?_⟩
    rw [← hPlaceOld, ← hPlaceNew]
    exact hTurns

end Hunk

/-
  The changes that hunks show turn one text into the other
  exactly if their ranges are true.
-/
theorem turns_iff_haveTrueRanges
    {hunks : List Hunk}
    (hCovers :
      Covers (ended before) (ended after) hunks start stop)
    (hOld : stop.old = before.length)
    (hNew : stop.new = after.length) :
    (∀ hunk ∈ hunks, (hunk.change before after).IsWhole) ∧
        Turns start.old start.new
          (hunks.map (Hunk.change before after))
          (before.drop start.old) (after.drop start.new) ↔
      HaveTrueRanges hunks start := by
  induction hCovers with
  | @rest start count hCommon =>
      have hTake := take_drop_eq_of_common hCommon
      rw [Place.below_old] at hOld
      rw [Place.below_new] at hNew
      rw [List.take_of_length_le (by simp; omega),
        List.take_of_length_le (by simp; omega)] at hTake
      simp [HaveTrueRanges, Patch.turns_nil_iff, hTake]
  | @hunk start place stop skipped hunk hunks hCommon hNe
      hCourse hBehind ih =>
      obtain ⟨hPlaceOld, hPlaceNew⟩ := hBehind.le
      rw [List.forall_mem_cons, List.map_cons, and_right_comm,
        turns_cons_iff hCommon hCourse (by omega) hNe
          (by omega),
        and_assoc, and_comm (a := Turns ..), ih hOld hNew,
        haveTrueRanges_cons_iff hCourse hNe]

end Diff

end NotifyScope
