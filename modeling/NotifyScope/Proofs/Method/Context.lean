import NotifyScope.Proofs.Rule.Renamed
import NotifyScope.Proofs.Wrapper.Collapse
import NotifyScope.Rewrite.Apply

/-
  The lines of one method in the middle of others.  Whatever
  a rewrite does to the method it does inside of these lines,
  and it does the same to them if they stand alone: the lines
  around them are only looked at for the marker.

  Key definitions include:
    * `Method.Whole`
    * `Method.moveTo`
    * `Method.mended`
    * `Method.markerLines`

  Main declarations:
    * `Repair.settle_context`
    * `Method.rewriteBody_context`
    * `Method.rewrite_context`
-/

------------------------------------------------------------
-- Lines in the Middle of Others
------------------------------------------------------------

namespace NotifyScope

namespace Lines

variable (head own tail : Lines)

theorem get_context
    {i : Nat}
    (hLess : i < own.length) :
    get (head ++ (own ++ tail)) (head.length + i) =
      get own i := by
  rw [get_append_right, get_append_left own tail hLess]

theorem window_context
    (rule : Rule) :
    Window rule own 0 (head ++ (own ++ tail)) head.length
      own.length := by
  intro i hi
  rw [get_context head own tail hi, Nat.zero_add]
  exact Rule.Alike.refl _

/- A change that leaves the lines around alone. -/
theorem mapIdx_context
    {change : Nat → Line → Line}
    (hOther : ∀ i line,
      i < head.length ∨ head.length + own.length ≤ i →
        change i line = line) :
    (head ++ (own ++ tail)).mapIdx change =
      head ++
        (own.mapIdx (fun i => change (head.length + i)) ++
          tail) := by
  have hHead : head.mapIdx change = head := by
    apply List.ext_getElem (by simp)
    intro i hi hiHead
    rw [List.getElem_mapIdx]
    exact hOther i _ (.inl hiHead)
  have hTail :
      tail.mapIdx
          (fun i => change
            (i + own.length + head.length)) = tail := by
    apply List.ext_getElem (by simp)
    intro i hi hiTail
    rw [List.getElem_mapIdx]
    exact hOther _ _ (.inr (by omega))
  rw [List.mapIdx_append, List.mapIdx_append, hHead, hTail]
  simp only [Nat.add_comm]

theorem eraseIdx_context
    {i : Nat}
    (hLess : i < own.length) :
    (head ++ (own ++ tail)).eraseIdx (head.length + i) =
      head ++ (own.eraseIdx i ++ tail) := by
  rw [List.eraseIdx_append_of_length_le (by omega),
    Nat.add_sub_cancel_left,
    List.eraseIdx_append_of_lt_length hLess]

theorem insertIdx_length_append
    (head tail : Lines)
    (line : Line) :
    (head ++ tail).insertIdx head.length line =
      head ++ line :: tail := by
  induction head with
  | nil => rfl
  | cons first head ih =>
      rw [List.cons_append, List.length_cons,
        List.insertIdx_succ_cons, ih, List.cons_append]

theorem outdent_context
    {outer inner stop : Nat}
    (hOuter : outer < own.length)
    (hInner : inner < own.length)
    (hStop : stop ≤ own.length) :
    outdent (head ++ (own ++ tail)) (head.length + outer)
        (head.length + inner) (head.length + stop) =
      head ++ (outdent own outer inner stop ++ tail) := by
  unfold outdent
  simp only [get_context head own tail hOuter,
    get_context head own tail hInner]
  split
  · rw [mapIdx_context]
    · simp only [Nat.add_lt_add_iff_left]
    · intro i line hi
      rw [if_neg (by omega)]
  · rfl

end Lines

------------------------------------------------------------
-- Whole Methods
------------------------------------------------------------

namespace Method

/- The lines of a method, from its declaration to its end. -/
def Whole
    (rule : Rule)
    (own : Lines) : Prop :=
  Spans rule own 0 (own.length - 1)

namespace Whole

variable {rule : Rule}
variable {own : Lines}

theorem length
    (hWhole : Whole rule own) :
    1 < own.length := by
  have := hWhole.lt
  omega

/- A method has its body wherever it is put. -/
theorem spans_context
    (hWhole : Whole rule own)
    (head tail : Lines) :
    Spans rule (head ++ (own ++ tail)) head.length
      (head.length + (own.length - 1)) := by
  have hLength := hWhole.length
  have hWindow := Lines.window_context head own tail rule
  have hOpener := hWhole.opener
  rw [← Lines.get_context head own tail (by omega),
    Nat.add_zero] at hOpener
  apply hWindow.spans (by omega) hOpener
  rw [Nat.zero_add]
  exact hWhole

end Whole

end Method

------------------------------------------------------------
-- Repairs
------------------------------------------------------------

namespace Repair

open Method

variable {rule : Rule}
variable {own : Lines}

theorem collapsed_context
    (head tail : Lines)
    {first : Nat}
    {pair : Wrapper.StackedPair}
    (hPair : Wrapper.stackedAt? rule own first = some pair)
    (hOuter : pair.outerClose < own.length) :
    collapsed (head ++ (own ++ tail)) (head.length + first)
        (pair.shift head.length) =
      head ++ (collapsed own first pair ++ tail) := by
  have hOrder := Wrapper.order_of_stackedAt? hPair
  unfold collapsed Wrapper.StackedPair.shift
  simp only
  rw [Lines.outdent_context head own tail (by omega)
      (by omega) (by omega),
    Lines.eraseIdx_context head _ tail (by
      rw [Lines.length_outdent]
      omega),
    Lines.eraseIdx_context head _ tail (by
      rw [List.length_eraseIdx, Lines.length_outdent]
      split <;> omega)]

/- Wrappers collapse alike in the middle of other lines. -/
theorem collapse?_context
    (hWhole : Whole rule own)
    (head tail : Lines) :
    collapse? rule head.length (head ++ (own ++ tail)) =
      (collapse? rule 0 own).map fun next =>
        head ++ (next ++ tail) := by
  have hLength := hWhole.length
  have hWindow := Lines.window_context head own tail rule
  have hSpans := hWhole.spans_context head tail
  cases hCollapse : collapse? rule 0 own with
  | none =>
      exact hWindow.collapse?_eq_none (by omega)
        (by rw [Nat.zero_add]; exact hWhole) hSpans
        hCollapse
  | some next =>
      rcases collapse?_eq_some_iff.mp hCollapse with
        ⟨stop, first, pair, hClose, hFirst, hLess, hPair,
          hOuter, rfl⟩
      have hStop := Block.close?_lt_length hClose
      rw [Option.map_some, collapse?_eq_some_iff]
      refine ⟨_, head.length + first,
        pair.shift head.length, hSpans.closes, ?_, ?_, ?_,
        ?_, ?_⟩
      · exact hWindow.nextFilled? (i := 1) (by omega)
          (by simpa using hFirst)
      · omega
      · exact hWindow.stackedAt? (i := first) (by omega)
          (by simpa [Wrapper.StackedPair.shift] using hPair)
      · unfold Wrapper.StackedPair.shift
        simp only
        omega
      · exact (collapsed_context head tail hPair
          (by omega)).symm

theorem dropSurplus?_context
    (hWhole : Whole rule own)
    (head tail : Lines)
    (hNone : dropSurplus? rule 0 own = none) :
    dropSurplus? rule head.length (head ++ (own ++ tail)) =
      none := by
  have hLength := hWhole.length
  have hWindow := Lines.window_context head own tail rule
  have hSpans := hWhole.spans_context head tail
  apply hWindow.dropSurplus?_eq_none ?_ (s := own.length - 1)
    (by omega) (by rw [Nat.zero_add]; exact hWhole) hSpans
    hNone
  intro i hi hCloses
  rw [Lines.get_context head own tail hi] at hCloses
  rw [Nat.zero_add]
  exact hCloses

/- What is left of a method is one without surplus lines. -/
theorem whole_of_collapse?
    {next : Lines}
    (hWhole : Whole rule own)
    (hNone : dropSurplus? rule 0 own = none)
    (hCollapse : collapse? rule 0 own = some next) :
    Whole rule next ∧ dropSurplus? rule 0 next = none := by
  rcases collapse?_eq_some_iff.mp hCollapse with
    ⟨stop, first, pair, hClose, hFirst, hLess, hPair,
      hOuter, rfl⟩
  have hOrder := Wrapper.order_of_stackedAt? hPair
  have hStart := Lines.le_nextFilled? hFirst
  have hStop := Block.close?_lt_length hClose
  have hSame := hWhole.closes
  rw [hClose, Option.some.injEq] at hSame
  rw [hSame] at hOuter
  constructor
  · have hSpans :=
      spans_collapsed hWhole hPair hStart hOuter
    unfold Whole
    rw [length_collapsed hOrder.2.1 (by omega),
      show own.length - 2 - 1 = own.length - 1 - 2 by omega]
    exact hSpans
  · exact dropSurplus?_collapsed hWhole hPair hStart hOuter
      hNone

/-
  Without surplus lines a repair collapses wrappers only, and
  each step keeps to the lines of the method.
-/
theorem settle_context
    (hWhole : Whole rule own)
    (head tail : Lines)
    (hNone : dropSurplus? rule 0 own = none) :
    Whole rule (settle rule 0 own).1 ∧
      (settle rule head.length
          (head ++ (own ++ tail))).1 =
        head ++ ((settle rule 0 own).1 ++ tail) := by
  induction hLength : own.length using
    Nat.strong_induction_on generalizing own with
  | _ length ih =>
      subst hLength
      have hContext := collapse?_context hWhole head tail
      cases hCollapse : collapse? rule 0 own with
      | some next =>
          rw [hCollapse, Option.map_some] at hContext
          rcases whole_of_collapse? hWhole hNone hCollapse
            with ⟨hNext, hNextNone⟩
          rw [settle_of_collapse hCollapse,
            settle_of_collapse hContext]
          exact ih next.length
            (length_collapse?_lt hCollapse) hNext hNextNone
            rfl
      | none =>
          rw [hCollapse, Option.map_none] at hContext
          rw [settle_of_none hCollapse hNone,
            settle_of_none hContext
              (dropSurplus?_context hWhole head tail hNone)]
          exact ⟨hWhole, rfl⟩

theorem normalize_context
    (hWhole : Whole rule own)
    (head tail : Lines) :
    (normalize rule head.length
        (head ++ (own ++ tail))).1 =
      head ++ ((normalize rule 0 own).1 ++ tail) := by
  have hLength := hWhole.length
  unfold normalize
  rw [(hWhole.spans_context head tail).closes,
    hWhole.closes]
  simp only
  rw [Lines.mapIdx_context]
  · congr 2
    apply List.ext_getElem (by simp)
    intro i hi hiOwn
    rw [List.getElem_mapIdx, List.getElem_mapIdx]
    simp only [Nat.lt_add_right_iff_pos,
      Nat.add_lt_add_iff_left]
  · intro i line hi
    rw [if_neg]
    simp only [Bool.and_eq_true, decide_eq_true_eq]
    omega

/- Annotations are taken off without moving a line. -/
theorem length_normalize
    (start : Nat)
    (lines : Lines) :
    (normalize rule start lines).1.length =
      lines.length := by
  unfold normalize
  split
  · rfl
  · exact List.length_mapIdx

end Repair

------------------------------------------------------------
-- Bodies
------------------------------------------------------------

namespace Method

variable {rule : Rule}
variable {own : Lines}
variable {method : Method}

/- A method in another place. -/
def moveTo
    (method : Method)
    (start : Nat) : Method :=
  { method with
    start
    stop := start + (method.stop - method.start) }

/- The state of a body does not depend on other lines. -/
theorem bodyState_context
    (hWhole : Whole rule own)
    (head tail : Lines)
    (hStart : method.start = head.length)
    (hStop : method.stop = head.length + (own.length - 1)) :
    method.bodyState rule (head ++ (own ++ tail)) =
      (method.moveTo 0).bodyState rule own := by
  have hLength := hWhole.length
  have hWindow := Lines.window_context head own tail rule
  symm
  apply bodyState_window (s := own.length - 1)
  · unfold moveTo
    simp only
    rw [hStart, Nat.sub_add_cancel (by omega)]
    exact hWindow
  · intro i hi
    unfold moveTo
    simp only
    rw [hStart, Nat.zero_add,
      Lines.get_context head own tail (by omega)]
  · unfold moveTo
    simp only
    omega
  · omega
  · unfold moveTo
    simp only
    rw [show 0 + (method.stop - method.start) =
      own.length - 1 by omega]
    exact hWhole
  · rw [hStart, hStop]
    exact hWhole.spans_context head tail

theorem wrap_context
    (reindent : Bool)
    (hWhole : Whole rule own)
    (head tail : Lines)
    (hStart : method.start = head.length)
    (hStop : method.stop = head.length + (own.length - 1)) :
    (method.wrap rule reindent (head ++ (own ++ tail))).1 =
      head ++
        (((method.moveTo 0).wrap rule reindent own).1 ++
          tail) := by
  have hLength := hWhole.length
  have hTake :
      (head ++ (own ++ tail)).take (method.start + 1) =
        head ++ own.take 1 := by
    rw [hStart, List.take_length_add_append,
      List.take_append_of_le_length (by omega)]
  have hDrop :
      (head ++ (own ++ tail)).drop method.stop =
        own.drop (own.length - 1) ++ tail := by
    rw [hStop, List.drop_length_add_append,
      List.drop_append_of_le_length (by omega)]
  have hInterior :
      method.interior (head ++ (own ++ tail)) =
        (method.moveTo 0).interior own := by
    unfold interior moveTo
    simp only
    rw [hStart, List.drop_length_add_append,
      List.drop_append_of_le_length (by omega),
      List.take_append_of_le_length (by
        rw [List.length_drop]
        omega)]
    congr 1
    omega
  unfold wrap
  simp only [hTake, hDrop, hInterior]
  unfold moveTo
  simp only
  rw [show 0 + (method.stop - method.start) =
    own.length - 1 by omega]
  simp only [List.append_assoc, List.cons_append,
    Nat.zero_add]

theorem repair_context
    (hWhole : Whole rule own)
    (head tail : Lines)
    (hNone : Repair.dropSurplus? rule 0 own = none)
    (hStart : method.start = head.length) :
    (method.repair rule (head ++ (own ++ tail))).1 =
      head ++
        (((method.moveTo 0).repair rule own).1 ++ tail) := by
  rcases Repair.settle_context hWhole head tail hNone with
    ⟨hSettled, hEq⟩
  unfold repair moveTo
  simp only
  rw [hStart, hEq, Repair.normalize_context hSettled]

/- A body is rewritten alike in the middle of other lines. -/
theorem rewriteBody_context
    (reindent : Bool)
    (hWhole : Whole rule own)
    (head tail : Lines)
    (hNone : Repair.dropSurplus? rule 0 own = none)
    (hStart : method.start = head.length)
    (hStop : method.stop = head.length + (own.length - 1)) :
    (method.rewriteBody rule reindent
        (head ++ (own ++ tail))).lines =
      head ++
        (((method.moveTo 0).rewriteBody rule reindent
          own).lines ++ tail) := by
  unfold rewriteBody
  simp only [bodyState_context hWhole head tail hStart hStop]
  split
  · exact wrap_context reindent hWhole head tail hStart hStop
  · rfl
  · exact repair_context hWhole head tail hNone hStart
  · exact repair_context hWhole head tail hNone hStart

/- A rewrite leaves the declaration line. -/
theorem length_rewriteBody_pos
    (method : Method)
    (reindent : Bool)
    (hWhole : Whole rule own)
    (hNone : Repair.dropSurplus? rule 0 own = none) :
    0 < ((method.moveTo 0).rewriteBody rule reindent
      own).lines.length := by
  have hLength := hWhole.length
  have hRepair :
      0 < ((method.moveTo 0).repair rule own).1.length := by
    have hSettled :=
      (Repair.settle_context hWhole [] [] hNone).1.length
    unfold repair moveTo
    simp only
    rw [Repair.length_normalize]
    omega
  unfold rewriteBody
  simp only
  split
  · unfold wrap
    simp only [List.length_append, List.length_cons]
    omega
  · exact hLength.le
  · exact hRepair
  · exact hRepair

------------------------------------------------------------
-- Declarations
------------------------------------------------------------

/- The lines of a method once its body is rewritten. -/
def mended
    (rule : Rule)
    (reindent : Bool)
    (method : Method)
    (own : Lines) : Lines :=
  let body :=
    ((method.moveTo 0).rewriteBody rule reindent own).lines
  body.set 0 (rule.renamed (Lines.get body 0))

/- What goes above a method, if these lines are above it. -/
def markerLines
    (rule : Rule)
    (method : Method)
    (above : Lines) : Lines :=
  match rule.marker with
  | none => []
  | some marker =>
      if Lines.hasMarkerAbove above above.length marker then
        []
      else
        [method.indent ++ marker]

/- Only the lines above a line can hold its marker. -/
theorem hasMarkerAbove_append
    (head rest : Lines)
    (marker : Line) :
    Lines.hasMarkerAbove (head ++ rest) head.length marker =
      Lines.hasMarkerAbove head head.length marker := by
  unfold Lines.hasMarkerAbove
  split
  · rfl
  · rename_i above hLength
    rw [Lines.get_append_left head rest (by omega)]

/- A declaration in the middle of other lines. -/
theorem renameDeclaration_context
    (method : Method)
    {body : Lines}
    (hLength : 0 < body.length)
    (head tail : Lines)
    (hStart : method.start = head.length) :
    (method.renameDeclaration rule
        (head ++ (body ++ tail))).1 =
      head ++
        (markerLines rule method head ++
          (body.set 0 (rule.renamed (Lines.get body 0)) ++
            tail)) := by
  have hGet :
      Lines.get (head ++ (body ++ tail)) head.length =
        Lines.get body 0 :=
    Lines.get_context head body tail hLength
  have hSet : ∀ line,
      (head ++ (body ++ tail)).set head.length line =
        head ++ (body.set 0 line ++ tail) := by
    intro line
    rw [List.set_append_right _ _ le_rfl, Nat.sub_self,
      List.set_append_left _ _ hLength]
  unfold markerLines
  cases hMarker : rule.marker with
  | none =>
      rw [renameDeclaration_of_none method _ hMarker, hStart,
        hGet, hSet]
      rfl
  | some marker =>
      rw [renameDeclaration_of_some method _ hMarker, hStart,
        hGet, hSet]
      unfold Lines.insertMarker
      rw [hasMarkerAbove_append]
      simp only
      split
      · rfl
      · simp only
        rw [Lines.insertIdx_length_append]
        rfl

/-
  A method that is rewritten in the middle of other lines:
  its marker goes above its body, and both are as if the
  lines of the method stood alone.
-/
theorem rewrite_context
    (reindent : Bool)
    (hWhole : Whole rule own)
    (head tail : Lines)
    (hNone : Repair.dropSurplus? rule 0 own = none)
    (hStart : method.start = head.length)
    (hStop : method.stop = head.length + (own.length - 1)) :
    (method.rewrite rule reindent
        (head ++ (own ++ tail))).lines =
      head ++
        (markerLines rule method head ++
          (mended rule reindent method own ++ tail)) := by
  have hLength :=
    length_rewriteBody_pos method reindent hWhole hNone
  have hBody :=
    rewriteBody_context reindent hWhole head tail hNone
      hStart hStop
  unfold rewrite mended
  simp only
  rw [hBody]
  exact renameDeclaration_context method hLength head tail
    hStart

end Method

end NotifyScope
