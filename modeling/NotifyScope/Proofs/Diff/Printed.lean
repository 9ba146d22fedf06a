import NotifyScope.Proofs.Diff.Format
import NotifyScope.Proofs.Diff.Ranges

/-
  What is printed of hunks.  It is the patch that they show,
  as it is written.

  Key definitions include:
    * `Diff.patch`

  Main declarations:
    * `Diff.toArray_splitLines_unlines`
    * `Diff.Hunk.lines_ended`
    * `Diff.flatten_lines_ended`
-/

namespace NotifyScope

open Patch (Range Entry Change unlines)

namespace Diff

variable {before after : Lines}

------------------------------------------------------------
-- Texts
------------------------------------------------------------

/- The first newline ends the first line. -/
theorem splitLines_append
    {line : Line}
    (hLine : line.IsPlain)
    (text : Text) :
    splitLines (line ++ '\n' :: text) =
      (line ++ ['\n']) :: splitLines text := by
  induction line with
  | nil => rfl
  | cons c line ih =>
      have hLf : c ≠ '\n' := fun hEq =>
        hLine.lf (hEq ▸ List.mem_cons_self)
      have hCr : c ≠ '\r' := fun hEq =>
        hLine.cr (hEq ▸ List.mem_cons_self)
      have hRest : Line.IsPlain line :=
        ⟨fun hMem => hLine.lf (List.mem_cons_of_mem _ hMem),
          fun hMem => hLine.cr (List.mem_cons_of_mem _ hMem)⟩
      have hStep :
          splitLines (c :: line ++ '\n' :: text) =
            consLine c (splitLines (line ++ '\n' :: text)) :=
        rfl
      rw [hStep, ih hRest]
      simp [consLine, hLf, hCr]

/- A text of plain lines is compared by them. -/
theorem toArray_splitLines_unlines
    {lines : Lines}
    (hPlain : ∀ line ∈ lines, line.IsPlain) :
    (splitLines (unlines lines)).toArray = ended lines := by
  unfold ended
  congr 1
  induction lines with
  | nil => rfl
  | cons line lines ih =>
      obtain ⟨hLine, hRest⟩ := List.forall_mem_cons.mp hPlain
      rw [Patch.unlines_cons, splitLines_append hLine, ih hRest,
        List.map_cons]

------------------------------------------------------------
-- Lines
------------------------------------------------------------

theorem slice_ended
    (lines : Lines)
    (start length : Nat) :
    slice (ended lines) start length =
      ((lines.drop start).take length).map (· ++ ['\n']) := by
  simp [slice, ended]

/- Signed lines are entries. -/
theorem map_signed
    (kind : Kind)
    (lines : Lines) :
    (lines.map (· ++ ['\n'])).map (signed (Patch.sign kind)) =
      ((lines.map (Entry.mk kind)).map Entry.text).map
        (· ++ ['\n']) := by
  simp only [List.map_map]
  refine List.map_congr_left fun line _ => ?_
  simp [signed, Entry.text]

/- A segment is printed as its entries. -/
theorem Segment.lines_ended
    (segment : Segment) :
    segment.lines (ended before) (ended after) =
      ((segment.entries before after).map Entry.text).map
        (· ++ ['\n']) := by
  unfold Segment.lines Segment.entries
  rw [slice_ended, slice_ended]
  cases segment.isEqual with
  | true => exact map_signed .equal _
  | false =>
      rw [if_neg Bool.false_ne_true, if_neg Bool.false_ne_true,
        List.map_append, List.map_append, ← map_signed,
        ← map_signed]
      rfl

/- Only the length of a range is printed, not its stop. -/
theorem Hunk.toList_range
    (start stop : Nat) :
    (Hunk.range start stop).toList =
      Range.text ⟨start, stop - start⟩ := by
  unfold Range.text Hunk.range
  rw [Nat.add_sub_cancel_left]

/- The header of a hunk is that of the change it shows. -/
theorem Hunk.toList_header
    {hunk : Hunk}
    (hNe : hunk ≠ []) :
    hunk.header.toList =
      (hunk.change before after).header := by
  obtain ⟨first, rest, rfl⟩ := List.exists_cons_of_ne_nil hNe
  unfold Hunk.header Change.header
  rw [Hunk.change_old, Hunk.change_new, Hunk.ranges,
    List.head?_cons, List.getLast?_cons]
  simp only [String.toList_append, Hunk.toList_range]
  rfl

/- A hunk is printed as the change that it shows. -/
theorem Hunk.lines_ended
    {hunk : Hunk}
    (hNe : hunk ≠ []) :
    hunk.lines (ended before) (ended after) =
      (hunk.change before after).written.map (· ++ ['\n']) := by
  unfold Hunk.lines Change.written
  rw [List.map_cons, ← Hunk.toList_header hNe]
  unfold Hunk.change
  rw [List.map_flatMap, List.map_flatMap,
    funext Segment.lines_ended]

------------------------------------------------------------
-- Patches
------------------------------------------------------------

/- The patch that hunks show. -/
def patch
    (before after : Lines)
    (hunks : List Hunk) : Patch :=
  hunks.map (Hunk.change before after)

/- Hunks are printed as the patch that they show. -/
theorem flatten_lines_ended
    {hunks : List Hunk}
    (hNe : ∀ hunk ∈ hunks, hunk ≠ []) :
    (hunks.flatMap
        (Hunk.lines (ended before) (ended after))).flatten =
      unlines
        ((patch before after hunks).flatMap
          Change.written) := by
  unfold unlines patch
  induction hunks with
  | nil => rfl
  | cons hunk hunks ih =>
      obtain ⟨hHunk, hRest⟩ := List.forall_mem_cons.mp hNe
      rw [List.flatMap_cons, List.flatten_append, ih hRest,
        Hunk.lines_ended hHunk, List.map_cons,
        List.flatMap_cons, List.flatMap_append]
      rfl

section Plain

variable (hBefore : ∀ line ∈ before, line.IsPlain)
variable (hAfter : ∀ line ∈ after, line.IsPlain)
include hBefore hAfter

/- Of plain lines, only plain lines are shown. -/
theorem Hunk.isPlain_entry
    (hunk : Hunk) :
    ∀ entry ∈ (hunk.change before after).entries,
      entry.line.IsPlain := by
  have hSome : ∀ {lines : Lines} {kind start length},
      (∀ line ∈ lines, line.IsPlain) →
        ∀ entry ∈
            ((lines.drop start).take length).map
              (Entry.mk kind),
          entry.line.IsPlain := by
    intro lines kind start length hLines entry hEntry
    obtain ⟨line, hLine, rfl⟩ := List.mem_map.mp hEntry
    exact hLines line
      (List.mem_of_mem_drop (List.mem_of_mem_take hLine))
  intro entry hEntry
  obtain ⟨segment, -, hMem⟩ := List.mem_flatMap.mp hEntry
  unfold Segment.entries at hMem
  split at hMem
  · exact hSome hBefore entry hMem
  · rcases List.mem_append.mp hMem with hMem | hMem
    · exact hSome hBefore entry hMem
    · exact hSome hAfter entry hMem

theorem isPlain_patch
    (hunks : List Hunk) :
    ∀ change ∈ patch before after hunks,
      ∀ entry ∈ change.entries, entry.line.IsPlain := by
  intro change hChange
  obtain ⟨hunk, -, rfl⟩ := List.mem_map.mp hChange
  exact hunk.isPlain_entry hBefore hAfter

end Plain

end Diff

end NotifyScope
