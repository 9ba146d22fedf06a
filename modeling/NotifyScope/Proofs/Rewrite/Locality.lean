import NotifyScope.Proofs.Method.Context
import NotifyScope.Proofs.Rule.Standard

/-
  Methods are found once and then rewritten in place, from
  the last to the first.  That is the same as rewriting each
  of them alone, with the line above it, and putting what
  comes out between the lines that belong to no method.

  Key definitions include:
    * `Method.own`
    * `Method.above`
    * `Method.alone`
    * `Method.assemble`

  Main declarations:
    * `Method.alone_eq`
    * `Method.rewriteAll_eq_assemble`
    * `Rule.apply_eq_assemble`
-/

------------------------------------------------------------
-- Methods Alone
------------------------------------------------------------

namespace NotifyScope

namespace Method

/- The lines of a method, both ends included. -/
def own
    (method : Method)
    (lines : Lines) : Lines :=
  (lines.drop method.start).take
    (method.stop + 1 - method.start)

/- The line directly above a method, if there is one. -/
def above
    (method : Method)
    (lines : Lines) : Lines :=
  (lines.take method.start).drop (method.start - 1)

/-
  What becomes of a method whose lines are all there is, but
  for the line above it.
-/
def alone
    (rule : Rule)
    (reindent : Bool)
    (method : Method)
    (lines : Lines) : Lines :=
  let above := method.above lines
  let work :=
    (method.moveTo above.length).rewrite rule reindent
      (above ++ method.own lines)
  work.lines.drop above.length

/-
  The lines from `i` on, with what becomes of each method
  alone in the place of its lines.
-/
def assemble
    (rule : Rule)
    (reindent : Bool)
    (lines : Lines) :
    (i : Nat) → List Method → Lines
  | i, [] => lines.drop i
  | i, method :: rest =>
      (lines.drop i).take (method.start - i) ++
        (method.alone rule reindent lines ++
          assemble rule reindent lines (method.stop + 1)
            rest)

variable {rule : Rule}
variable {lines : Lines}
variable {method : Method}

theorem assemble_cons
    (reindent : Bool)
    (lines : Lines)
    (i : Nat)
    (method : Method)
    (rest : List Method) :
    assemble rule reindent lines i (method :: rest) =
      (lines.drop i).take (method.start - i) ++
        (method.alone rule reindent lines ++
          assemble rule reindent lines (method.stop + 1)
            rest) := rfl

/- The lines above, of, and below a method. -/
theorem take_append_own
    (method : Method)
    (lines : Lines)
    (hLess : method.start < method.stop) :
    lines.take method.start ++
        (method.own lines ++
          lines.drop (method.stop + 1)) = lines := by
  have hTail :
      lines.drop (method.stop + 1) =
        (lines.drop method.start).drop
          (method.stop + 1 - method.start) := by
    rw [List.drop_drop]
    congr 1
    omega
  unfold own
  rw [hTail, List.take_append_drop, List.take_append_drop]

theorem get_own
    {i : Nat}
    (hLess : method.start + i ≤ method.stop) :
    Lines.get (method.own lines) i =
      Lines.get lines (method.start + i) := by
  unfold own
  rw [Lines.get_take _ (by omega), Lines.get_drop]

section Alone

variable
  (hSpans : Spans rule lines method.start method.stop)

include hSpans

theorem length_own :
    (method.own lines).length =
      method.stop + 1 - method.start := by
  have hLess := Block.close?_lt_length hSpans.closes
  unfold own
  rw [List.length_take, List.length_drop]
  omega

theorem length_take_start :
    (lines.take method.start).length = method.start := by
  have hLess := Block.close?_lt_length hSpans.closes
  have hOrder := hSpans.lt
  rw [List.length_take]
  omega

/- The lines of a method among the lines they come from. -/
theorem window_own :
    Lines.Window rule lines method.start
      (method.own lines) 0 (method.own lines).length := by
  have hWindow :=
    Lines.window_context (lines.take method.start)
      (method.own lines) (lines.drop (method.stop + 1)) rule
  rw [take_append_own method lines hSpans.lt,
    length_take_start hSpans] at hWindow
  exact hWindow.symm

/- The lines of a method are a whole method. -/
theorem whole_own :
    Whole rule (method.own lines) := by
  have hOrder := hSpans.lt
  have hLength := length_own hSpans
  have hOpener := hSpans.opener
  have hStop :
      method.start + ((method.own lines).length - 1) =
        method.stop := by
    omega
  unfold Whole
  rw [show (method.own lines).length - 1 =
    0 + ((method.own lines).length - 1) by omega]
  apply (window_own hSpans).spans (by omega)
  · rw [get_own (by omega), Nat.add_zero]
    exact hOpener
  · rw [hStop]
    exact hSpans

/- A method that closes well does so alone. -/
theorem dropSurplus?_own
    (hNone :
      Repair.dropSurplus? rule method.start lines = none) :
    Repair.dropSurplus? rule 0 (method.own lines) =
      none := by
  have hOrder := hSpans.lt
  have hLength := length_own hSpans
  have hWhole := whole_own hSpans
  unfold Whole at hWhole
  rw [show (method.own lines).length - 1 =
    0 + ((method.own lines).length - 1) by omega] at hWhole
  apply (window_own hSpans).dropSurplus?_eq_none ?_
    (by omega) ?_ hWhole hNone
  · intro i hi hCloses
    rw [Nat.zero_add, get_own (by omega)] at hCloses
    exact hCloses
  · rw [show method.start +
      ((method.own lines).length - 1) = method.stop by omega]
    exact hSpans

/- The line above is all it takes to find the marker. -/
theorem markerLines_above :
    markerLines rule (method.moveTo (method.above
        lines).length) (method.above lines) =
      markerLines rule method
        (lines.take method.start) := by
  have hTake := length_take_start hSpans
  have hSame : ∀ marker,
      Lines.hasMarkerAbove (method.above lines)
          (method.above lines).length marker =
        Lines.hasMarkerAbove (lines.take method.start)
          (lines.take method.start).length marker := by
    intro marker
    have hAbove :
        (method.above lines).length =
          method.start - (method.start - 1) := by
      unfold above
      rw [List.length_drop, hTake]
    rw [hAbove, hTake]
    cases hStart : method.start with
    | zero => rfl
    | succ n =>
        rw [Nat.add_sub_cancel, Nat.add_sub_cancel_left]
        unfold Lines.hasMarkerAbove above
        simp only
        rw [hStart, Nat.add_sub_cancel, Lines.get_drop]
        rfl
  unfold markerLines
  split
  · rfl
  · rw [hSame]
    rfl

/- What becomes of a method alone, in its two parts. -/
theorem alone_eq
    (reindent : Bool)
    (hNone :
      Repair.dropSurplus? rule method.start lines = none) :
    method.alone rule reindent lines =
      markerLines rule method (lines.take method.start) ++
        mended rule reindent method (method.own lines) := by
  have hOrder := hSpans.lt
  have hLength := length_own hSpans
  have hStart :
      (method.moveTo (method.above lines).length).start =
        (method.above lines).length := rfl
  have hRewrite :=
    rewrite_context reindent (whole_own hSpans)
      (method.above lines) [] (dropSurplus?_own hSpans hNone)
      hStart (by
        unfold moveTo
        simp only
        omega)
  rw [List.append_nil, List.append_nil] at hRewrite
  unfold alone
  simp only
  rw [hRewrite, List.drop_left, markerLines_above hSpans]
  unfold mended moveTo
  simp only [Nat.add_sub_cancel_left]

end Alone

------------------------------------------------------------
-- All Methods
------------------------------------------------------------

/-
  While the methods are rewritten from the last to the first,
  the lines above the one that is next are the original ones.
-/
theorem rewriteAll_eq_assemble
    (reindent : Bool)
    (lines : Lines)
    (methods : List Method)
    (i : Nat)
    (hOrder : methods.Pairwise fun earlier later =>
      earlier.stop < later.start)
    (hMethods : ∀ method ∈ methods,
      i ≤ method.start ∧
        Spans rule lines method.start method.stop ∧
        Repair.dropSurplus? rule method.start lines =
          none) :
    (rewriteAll rule reindent methods lines).lines =
      lines.take i ++
        assemble rule reindent lines i methods := by
  induction methods generalizing i with
  | nil => exact (List.take_append_drop i lines).symm
  | cons method methods ih =>
      rcases hMethods method List.mem_cons_self with
        ⟨hStart, hSpans, hNone⟩
      rcases List.pairwise_cons.mp hOrder with
        ⟨hFirst, hRest⟩
      have hLength := length_own hSpans
      have hTake := length_take_start hSpans
      have hLess := hSpans.lt
      -- What the later methods leave of the lines.
      have hLater :
          (rewriteAll rule reindent methods lines).lines =
            lines.take method.start ++
              (method.own lines ++
                assemble rule reindent lines
                  (method.stop + 1) methods) := by
        rw [ih (method.stop + 1) hRest, ← List.append_assoc]
        · congr 1
          have hWhole :=
            congrArg (List.take (method.stop + 1))
              (take_append_own method lines hLess)
          rw [← hWhole, ← List.append_assoc,
            List.take_append_of_le_length (by
              rw [List.length_append]
              omega)]
          apply List.take_of_length_le
          rw [List.length_append]
          omega
        · intro other hOther
          exact ⟨hFirst other hOther,
            (hMethods other
              (List.mem_cons_of_mem _ hOther)).2⟩
      have hStep :
          (rewriteAll rule reindent (method :: methods)
              lines).lines =
            (method.rewrite rule reindent
              (rewriteAll rule reindent methods
                lines).lines).lines := rfl
      have hGap :
          lines.take i ++
              (lines.drop i).take (method.start - i) =
            lines.take method.start := by
        rw [← List.take_add, Nat.add_sub_cancel' hStart]
      rw [hStep, hLater,
        rewrite_context reindent (whole_own hSpans) _ _
          (dropSurplus?_own hSpans hNone) hTake.symm
          (by omega)]
      rw [assemble_cons, alone_eq hSpans reindent hNone,
        ← hGap]
      simp only [List.append_assoc]

end Method

------------------------------------------------------------
-- A Whole Rule
------------------------------------------------------------

namespace Rule

variable {rule : Rule} {layout : Layout} {lines : Lines}

/-
  Applying a rule without a conflict, where no method has
  lost its own closing line, is rewriting every method alone
  and then renaming.  Without a declaration nothing changes.
-/
theorem apply_eq_assemble
    (rule : Rule)
    (layout : Layout)
    (lines : Lines)
    (hConflict :
      (rule.survey layout lines).conflict = none)
    (hSurplus :
      ∀ method ∈ (rule.survey layout lines).methods,
        ∀ last,
          Lines.lastFilled? lines (method.start + 1)
              method.stop = some last →
            Wrapper.surplusClose? rule lines last = none) :
    ∃ work,
      rule.apply layout lines =
          .ok
            (work,
              (rule.survey layout lines).unbalanced) ∧
        work.lines =
          if (rule.survey layout lines).isEmpty then
            lines
          else
            (Lines.renameAll rule
              (Method.assemble rule layout.reindent lines 0
                (rule.survey layout lines).methods)).1 := by
  have hMethods :
      ∀ method ∈ (rule.survey layout lines).methods,
        0 ≤ method.start ∧
          Method.Spans rule lines method.start
            method.stop ∧
          Repair.dropSurplus? rule method.start lines =
            none := by
    intro method hMethod
    have hSpans :=
      Method.Spans.of_located (located_of_mem_survey hMethod)
    refine ⟨Nat.zero_le _, hSpans, ?_⟩
    rw [← Option.not_isSome_iff_eq_none,
      Repair.dropSurplus?_isSome_iff hSpans]
    rintro ⟨last, hLast, hClosers⟩
    have hNone := hSurplus method hMethod last hLast
    rw [Wrapper.surplusClose?_eq hSpans hLast,
      if_pos hClosers] at hNone
    cases hNone
  have hAll :=
    Method.rewriteAll_eq_assemble layout.reindent lines _ 0
      (survey_pairwise hConflict) hMethods
  rw [List.take_zero, List.nil_append] at hAll
  refine ⟨_, apply_of_conflict_eq_none hConflict, ?_⟩
  unfold rewrite
  split
  · rfl
  · simp only
    rw [hAll]

/- A method between a comment and a call of it. -/
theorem apply_eq_assemble_unwrapped :
    let layout : Layout :=
      { unit := "  ".toList, reindent := true }
    let lines : Lines :=
      ["// note".toList,
        "void _generateQuestion() \x7b".toList,
        "  a();".toList,
        "\x7d".toList,
        "_generateQuestion();".toList]
    (standard.survey layout lines).conflict = none ∧
      (∀ method ∈ (standard.survey layout lines).methods,
        ∀ last,
          Lines.lastFilled? lines (method.start + 1)
              method.stop = some last →
            Wrapper.surplusClose? standard lines last =
              none) ∧
      ∃ work,
        standard.apply layout lines =
            .ok
              (work,
                (standard.survey layout lines).unbalanced) ∧
          work.lines =
            if (standard.survey layout lines).isEmpty then
              lines
            else
              (Lines.renameAll standard
                (Method.assemble standard layout.reindent
                  lines 0
                  (standard.survey layout lines).methods)).1 := by
  intro layout lines
  have hConflict :
      (standard.survey layout lines).conflict = none := rfl
  have hMethods :
      (standard.survey layout lines).methods =
        [{ name := "_generateQuestion".toList
           start := 1
           stop := 3
           indent := []
           unit := "  ".toList }] := rfl
  have hSurplus :
      ∀ method ∈ (standard.survey layout lines).methods,
        ∀ last,
          Lines.lastFilled? lines (method.start + 1)
              method.stop = some last →
            Wrapper.surplusClose? standard lines last =
              none := by
    intro method hMethod last hLast
    rw [hMethods, List.mem_singleton] at hMethod
    subst hMethod
    cases hLast
    rfl
  exact ⟨hConflict, hSurplus,
    apply_eq_assemble standard layout lines hConflict
      hSurplus⟩

/- Names are left alone in lines without a declaration. -/
theorem apply_ne_assemble_of_isEmpty :
    let layout : Layout :=
      { unit := "  ".toList, reindent := true }
    let lines : Lines := ["_generateQuestion();".toList]
    (standard.survey layout lines).conflict = none ∧
      (standard.survey layout lines).methods = [] ∧
      ¬∃ work,
        standard.apply layout lines = .ok (work, []) ∧
          work.lines =
            (Lines.renameAll standard
              (Method.assemble standard layout.reindent
                lines 0 [])).1 := by
  intro layout lines
  refine ⟨rfl, rfl, ?_⟩
  rintro ⟨work, hApply, hLines⟩
  have hNothing :
      standard.apply layout lines =
        .ok ({ lines }, []) := rfl
  rw [hNothing] at hApply
  cases hApply
  exact absurd hLines (by decide +kernel)
end Rule

end NotifyScope
