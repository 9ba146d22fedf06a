import Mathlib.Data.List.InsertIdx
import NotifyScope.Method.Signature
import NotifyScope.Proofs.Lines.Window
import NotifyScope.Proofs.Wrapper.Indentation

/-
  Lists of lines that agree line by line once every line is
  trimmed.  All that the searches look at is left by trimming,
  so they find the same in both lists, and cutting, joining or
  changing both in the same way keeps them aligned.

  Key definitions include:
    * `Lines.Aligned`

  Main declarations:
    * `Lines.Aligned.close?_eq`
    * `Lines.Aligned.stackedAt?_eq`
    * `Lines.Aligned.window`
-/

------------------------------------------------------------
-- Aligned Lines
------------------------------------------------------------

namespace NotifyScope

namespace Lines

/- As many lines in both lists, each the same once trimmed. -/
def Aligned
    (left right : Lines) : Prop :=
  left.map Text.trim = right.map Text.trim

namespace Aligned

variable {left right : Lines}

theorem refl
    (lines : Lines) :
    Aligned lines lines := rfl

theorem symm
    (hAligned : Aligned left right) :
    Aligned right left :=
  Eq.symm hAligned

theorem trans
    {middle : Lines}
    (hLeft : Aligned left middle)
    (hRight : Aligned middle right) :
    Aligned left right :=
  Eq.trans hLeft hRight

theorem length_eq
    (hAligned : Aligned left right) :
    left.length = right.length := by
  have hLength := congrArg List.length hAligned
  rw [List.length_map, List.length_map] at hLength
  exact hLength

theorem trim_get
    (hAligned : Aligned left right)
    (i : Nat) :
    Text.trim (get left i) = Text.trim (get right i) := by
  have hGet : ∀ lines : Lines,
      get (lines.map Text.trim) i = Text.trim (get lines i) :=
    fun lines => get_map lines rfl i
  rw [← hGet, ← hGet, hAligned]

/- Line by line the two need not have more in common. -/
theorem of_trim_get
    (hLength : left.length = right.length)
    (hTrim : ∀ i,
      Text.trim (get left i) = Text.trim (get right i)) :
    Aligned left right := by
  apply List.ext_getElem
  · rw [List.length_map, List.length_map, hLength]
  · intro i hLeft hRight
    rw [List.length_map] at hLeft hRight
    rw [List.getElem_map, List.getElem_map,
      ← get_eq_getElem hLeft, ← get_eq_getElem hRight]
    exact hTrim i

------------------------------------------------------------
-- Edits
------------------------------------------------------------

theorem append
    {before after : Lines}
    (hLines : Aligned left right)
    (hOthers : Aligned before after) :
    Aligned (left ++ before) (right ++ after) := by
  unfold Aligned at hLines hOthers ⊢
  rw [List.map_append, List.map_append, hLines, hOthers]

theorem cons
    {line other : Line}
    (hLine : Text.trim line = Text.trim other)
    (hLines : Aligned left right) :
    Aligned (line :: left) (other :: right) := by
  unfold Aligned at hLines ⊢
  rw [List.map_cons, List.map_cons, hLine, hLines]

theorem take
    (hAligned : Aligned left right)
    (n : Nat) :
    Aligned (left.take n) (right.take n) := by
  unfold Aligned at hAligned ⊢
  rw [List.map_take, List.map_take, hAligned]

theorem drop
    (hAligned : Aligned left right)
    (n : Nat) :
    Aligned (left.drop n) (right.drop n) := by
  unfold Aligned at hAligned ⊢
  rw [List.map_drop, List.map_drop, hAligned]

theorem eraseIdx
    (hAligned : Aligned left right)
    (i : Nat) :
    Aligned (left.eraseIdx i) (right.eraseIdx i) := by
  unfold Aligned at hAligned ⊢
  rw [← List.eraseIdx_map, ← List.eraseIdx_map, hAligned]

theorem insertIdx
    {line other : Line}
    (hAligned : Aligned left right)
    (hLine : Text.trim line = Text.trim other)
    (i : Nat) :
    Aligned (left.insertIdx i line)
      (right.insertIdx i other) := by
  unfold Aligned at hAligned ⊢
  rw [List.map_insertIdx, List.map_insertIdx, hAligned,
    hLine]

theorem set
    {line other : Line}
    (hAligned : Aligned left right)
    (hLine : Text.trim line = Text.trim other)
    (i : Nat) :
    Aligned (left.set i line) (right.set i other) := by
  unfold Aligned at hAligned ⊢
  rw [List.map_set, List.map_set, hAligned, hLine]

/- Changes that show in both once trimmed, or in neither. -/
theorem mapIdx
    {change other : Nat → Line → Line}
    (hAligned : Aligned left right)
    (hChange : ∀ i line twin,
      Text.trim line = Text.trim twin →
        Text.trim (change i line) =
          Text.trim (other i twin)) :
    Aligned (left.mapIdx change) (right.mapIdx other) := by
  have hLength := hAligned.length_eq
  apply of_trim_get
  · rw [List.length_mapIdx, List.length_mapIdx, hLength]
  · intro i
    by_cases hLess : i < left.length
    · rw [get_mapIdx _ _ hLess,
        get_mapIdx _ _ (hLength ▸ hLess)]
      exact hChange i _ _ (hAligned.trim_get i)
    · rw [get_of_length_le (by
          rw [List.length_mapIdx]
          omega),
        get_of_length_le (by
          rw [List.length_mapIdx]
          omega)]

theorem map
    {change other : Line → Line}
    (hAligned : Aligned left right)
    (hChange : ∀ line twin,
      Text.trim line = Text.trim twin →
        Text.trim (change line) =
          Text.trim (other twin)) :
    Aligned (left.map change) (right.map other) := by
  have hIdx : ∀ (f : Line → Line) (lines : Lines),
      lines.map f = lines.mapIdx fun _ => f := by
    intro f lines
    apply List.ext_getElem <;> simp
  rw [hIdx, hIdx]
  exact hAligned.mapIdx fun _ => hChange

/- As many numbered lines are picked out of both. -/
theorem length_filter_zipIdx
    {pick : Line × Nat → Bool}
    (hAligned : Aligned left right)
    (hPick : ∀ i line twin,
      Text.trim line = Text.trim twin →
        pick (line, i) = pick (twin, i)) :
    (left.zipIdx.filter pick).length =
      (right.zipIdx.filter pick).length := by
  have hTrimmed : ∀ lines : Lines,
      (lines.zipIdx.filter pick).length =
        ((lines.map Text.trim).zipIdx.filter
          pick).length := by
    intro lines
    rw [List.zipIdx_map, List.filter_map, List.length_map]
    congr 2
    funext ⟨line, i⟩
    exact hPick i line _ (Text.trim_trim line).symm
  rw [hTrimmed left, hTrimmed right, hAligned]

end Aligned

/- Moving lines in or back aligns them with what they were. -/
theorem aligned_outdent
    (lines : Lines)
    (outer inner stop : Nat) :
    Aligned (outdent lines outer inner stop) lines :=
  .of_trim_get (length_outdent ..)
    fun i => trim_get_outdent lines outer inner stop i

theorem aligned_shift
    {unit : Text}
    (lines : Lines)
    (hUnit : Text.allBlank unit = true) :
    Aligned (lines.map (Line.shift unit)) lines := by
  unfold Aligned
  rw [List.map_map]
  exact List.map_congr_left fun line _ =>
    Line.trim_shift line hUnit

------------------------------------------------------------
-- Searches
------------------------------------------------------------

namespace Aligned

variable {left right : Lines}
variable (hAligned : Aligned left right)

include hAligned

/- The lines of both lists look alike to all searches. -/
theorem alike_get
    (rule : Rule)
    (i : Nat) :
    rule.Alike (get left i) (get right i) :=
  .of_trim_eq (hAligned.trim_get i)

theorem window
    (rule : Rule)
    (a n : Nat) :
    Window rule left a right a n :=
  fun i _ => hAligned.alike_get rule (a + i)

theorem closesAnnotated_get
    (rule : Rule)
    (i : Nat) :
    rule.closesAnnotated (get left i) =
      rule.closesAnnotated (get right i) :=
  Rule.closesAnnotated_congr (hAligned.trim_get i)

theorem close?_eq
    (start : Nat) :
    Block.close? left start = Block.close? right start :=
  Block.close?_congr
    (fun i =>
      Line.braceBalance_eq_of_trim_eq (hAligned.trim_get i))
    start

theorem nextFilled?_eq
    (start : Nat) :
    nextFilled? left start = nextFilled? right start := by
  have hBlank : ∀ i,
      Text.allBlank (get left i) =
        Text.allBlank (get right i) :=
    fun i => Text.allBlank_eq_of_trim_eq (hAligned.trim_get i)
  apply Option.ext
  intro i
  simp only [nextFilled?_eq_some_iff, hBlank]

theorem lastFilled?_eq
    (start stop : Nat) :
    lastFilled? left start stop =
      lastFilled? right start stop := by
  have hBlank : ∀ i,
      Text.allBlank (get left i) =
        Text.allBlank (get right i) :=
    fun i => Text.allBlank_eq_of_trim_eq (hAligned.trim_get i)
  apply Option.ext
  intro i
  simp only [lastFilled?_eq_some_iff, hBlank]

theorem hasMarkerAbove_eq
    (i : Nat)
    (marker : Line) :
    hasMarkerAbove left i marker =
      hasMarkerAbove right i marker := by
  cases i with
  | zero => rfl
  | succ above =>
      unfold hasMarkerAbove
      simp only [hAligned.trim_get]

theorem stackedAt?_eq
    (rule : Rule)
    (i : Nat) :
    Wrapper.stackedAt? rule left i =
      Wrapper.stackedAt? rule right i := by
  have hOpens := fun j => (hAligned.alike_get rule j).opens
  have hCloses := fun j => (hAligned.alike_get rule j).closes
  apply Option.ext
  intro pair
  simp only [Wrapper.stackedAt?_eq_some_iff, hOpens, hCloses,
    hAligned.close?_eq, hAligned.nextFilled?_eq]

end Aligned

end Lines

end NotifyScope
