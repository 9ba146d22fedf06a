import NotifyScope.Proofs.Method.Context
import NotifyScope.Proofs.Rule.Declaration

/-
  What a rewrite makes of a single method.  A body without a
  wrapper that closes with one brace gets one that is closed
  as it should be, and a wrapper with an annotated end loses
  the annotation; in both cases the method is then canonical,
  and it stays so when its lines are renamed.

  Key definitions include:
    * `Method.Canonical`
    * `Method.wrappedLines`
    * `Method.Finished`

  Main declarations:
    * `Method.bodyState_eq_canonical`
    * `Method.canonical_normalize`
    * `Method.canonical_wrapped`
    * `Method.spans_wrap`
    * `Method.finished_rewriteBody`
    * `Method.Finished.renamed`
-/

------------------------------------------------------------
-- Canonical Methods
------------------------------------------------------------

namespace NotifyScope

namespace Method

/-
  A method whose body is one wrapper, closed as it should be,
  with nothing for a repair to do.
-/
structure Canonical
    (rule : Rule)
    (lines : Lines)
    (start stop : Nat) : Prop where
  spans : Spans rule lines start stop
  collapse : Repair.collapse? rule start lines = none
  surplus : Repair.dropSurplus? rule start lines = none
  wrapped :
    ∃ first last,
      Wrapped rule lines start stop first last ∧
        rule.closesWrapper (Lines.get lines last) = true

/- Such a method is classified as canonical. -/
theorem bodyState_eq_canonical
    {rule : Rule}
    {lines : Lines}
    {method : Method}
    (hCanonical :
      Canonical rule lines method.start method.stop) :
    method.bodyState rule lines = .canonical :=
  (bodyState_eq_canonical_iff hCanonical.spans).mpr
    ⟨hCanonical.collapse, hCanonical.surplus,
      hCanonical.wrapped⟩

theorem canonical_of_bodyState
    {rule : Rule}
    {lines : Lines}
    {method : Method}
    (hSpans : Spans rule lines method.start method.stop)
    (hState : method.bodyState rule lines = .canonical) :
    Canonical rule lines method.start method.stop := by
  rcases (bodyState_eq_canonical_iff hSpans).mp hState with
    ⟨hCollapse, hDrop, hWrapped⟩
  exact ⟨hSpans, hCollapse, hDrop, hWrapped⟩

end Method

namespace Lines

namespace Window

open Method

variable {rule : Rule}
variable {left right : Lines}
variable {a b n s : Nat}

/- Lines that look like those of a canonical method. -/
theorem canonical
    (hWindow : Window rule left a right b n)
    (hAnnotated : ∀ i, i < n →
      rule.closesAnnotated (get left (a + i)) =
        rule.closesAnnotated (get right (b + i)))
    (hLess : s < n)
    (hOpener :
      (opener? rule (get right b)).isSome = true)
    (hLeft : Canonical rule left a (a + s)) :
    Canonical rule right b (b + s) := by
  have hRight := hWindow.spans hLess hOpener hLeft.spans
  refine ⟨hRight,
    hWindow.collapse?_eq_none hLess hLeft.spans hRight
      hLeft.collapse,
    hWindow.dropSurplus?_eq_none (fun i hi hCloses => by
      rw [hAnnotated i hi]
      exact hCloses) hLess hLeft.spans hRight
      hLeft.surplus, ?_⟩
  rcases hLeft.wrapped with ⟨first, last, hWrapped, hCloses⟩
  rcases hWindow.wrapped hLess hWrapped with
    ⟨f, l, rfl, rfl, hl, hOther⟩
  refine ⟨_, _, hOther, ?_⟩
  rw [Rule.closesWrapper_eq] at hCloses ⊢
  rw [← (hWindow l (by omega)).closes,
    ← hAnnotated l (by omega)]
  exact hCloses

end Window

end Lines

------------------------------------------------------------
-- Annotations
------------------------------------------------------------

namespace Repair

variable {rule : Rule}
variable {own : Lines}

/- A line once the annotations are taken off. -/
theorem get_normalize
    {start stop : Nat}
    (hClose : Block.close? own start = some stop)
    (i : Nat) :
    Lines.get (normalize rule start own).1 i =
      if (start < i ∧ i < stop) ∧
          rule.closesAnnotated (Lines.get own i) = true then
        Text.leading (Lines.get own i) ++ rule.wrapClose
      else
        Lines.get own i := by
  have hStop := Block.close?_lt_length hClose
  unfold normalize
  rw [hClose]
  simp only [Bool.and_eq_true, decide_eq_true_eq]
  by_cases hLength : i < own.length
  · rw [Lines.get_mapIdx _ _ hLength]
  · rw [Lines.get_of_length_le (by simpa using hLength),
      Lines.get_of_length_le (by omega),
      if_neg (by omega)]

/- Taking off annotations is no change to the searches. -/
theorem window_normalize
    {start stop : Nat}
    (hClose : Block.close? own start = some stop)
    (n : Nat) :
    Lines.Window rule own start (normalize rule start own).1
      start n := by
  intro i _
  rw [get_normalize hClose]
  split
  · rename_i hTarget
    apply Rule.Alike.of_closesEither
    · exact Rule.closesEither_of_closesAnnotated hTarget.2
    · exact Rule.closesEither_of_closesWrapper
        (Rule.closesWrapper_append (Text.allBlank_leading _))
  · exact Rule.Alike.refl _

/- What is annotated in the end was so before. -/
theorem closesAnnotated_of_normalize
    {start stop i : Nat}
    (hClose : Block.close? own start = some stop)
    (hAnnotated :
      rule.closesAnnotated
        (Lines.get (normalize rule start own).1 i) = true) :
    rule.closesAnnotated (Lines.get own i) = true := by
  rw [get_normalize hClose] at hAnnotated
  split at hAnnotated
  · rename_i hTarget
    exact hTarget.2
  · exact hAnnotated

end Repair

namespace Method

variable {rule : Rule}
variable {own : Lines}

/- A wrapper that was closed with an annotation. -/
theorem canonical_normalize
    {start stop first last : Nat}
    (hSpans : Spans rule own start stop)
    (hCollapse : Repair.collapse? rule start own = none)
    (hDrop : Repair.dropSurplus? rule start own = none)
    (hWrapped : Wrapped rule own start stop first last)
    (hCloses :
      rule.closesEither (Lines.get own last) = true) :
    Canonical rule (Repair.normalize rule start own).1 start
      stop := by
  have hLess := hSpans.lt
  obtain ⟨s, rfl⟩ :=
    Nat.exists_eq_add_of_le (show start ≤ stop by omega)
  have hWindow :
      Lines.Window rule own start
        (Repair.normalize rule start own).1 start (s + 1) :=
    Repair.window_normalize hSpans.closes (s + 1)
  have hStart :
      Lines.get (Repair.normalize rule start own).1 start =
        Lines.get own start := by
    rw [Repair.get_normalize hSpans.closes,
      if_neg (by omega)]
  have hAfter :
      Spans rule (Repair.normalize rule start own).1 start
        (start + s) := by
    apply hWindow.spans (Nat.lt_succ_self s) ?_ hSpans
    rw [hStart]
    exact hSpans.opener
  refine ⟨hAfter,
    hWindow.collapse?_eq_none (Nat.lt_succ_self s) hSpans
      hAfter hCollapse,
    hWindow.dropSurplus?_eq_none
      (fun i _ hAnnotated =>
        Repair.closesAnnotated_of_normalize hSpans.closes
          hAnnotated)
      (Nat.lt_succ_self s) hSpans hAfter hDrop, ?_⟩
  rcases hWindow.wrapped (Nat.lt_succ_self s) hWrapped with
    ⟨f, l, rfl, rfl, hl, hOther⟩
  refine ⟨_, _, hOther, ?_⟩
  have hFirst := Lines.le_nextFilled? hWrapped.isFirst
  have hOrder := Block.lt_close? hWrapped.closes
  rw [Repair.get_normalize hSpans.closes]
  split
  · exact Rule.closesWrapper_append (Text.allBlank_leading _)
  · rename_i hNot
    rw [Rule.closesWrapper_eq, hCloses, Bool.true_and,
      Bool.not_eq_true', Bool.eq_false_iff]
    intro hAnnotated
    exact hNot ⟨by omega, hAnnotated⟩

end Method

------------------------------------------------------------
-- New Wrappers
------------------------------------------------------------

namespace Method

/- The lines of a method with a wrapper around its body. -/
def wrappedLines
    (decl opening : Line)
    (body : Lines)
    (closing last : Line) : Lines :=
  decl :: opening :: (body ++ [closing, last])

theorem length_wrappedLines
    (decl opening : Line)
    (body : Lines)
    (closing last : Line) :
    (wrappedLines decl opening body closing last).length =
      body.length + 4 := by
  unfold wrappedLines
  simp

variable {rule : Rule}

/- A whole method between its first and its last line. -/
theorem Whole.exists_eq
    {own : Lines}
    (hWhole : Whole rule own) :
    ∃ decl inner last, own = decl :: (inner ++ [last]) := by
  have hLength := hWhole.length
  cases own with
  | nil => simp at hLength
  | cons decl rest =>
      have hNe : rest ≠ [] := by
        rintro rfl
        simp at hLength
      exact ⟨decl, rest.dropLast, rest.getLast hNe,
        by rw [List.dropLast_append_getLast]⟩

theorem get_whole_stop
    (decl last : Line)
    (inner : Lines) :
    Lines.get (decl :: (inner ++ [last]))
        (inner.length + 1) = last := by
  rw [Lines.get_cons_succ, Lines.get_length_append,
    Lines.get_cons_zero]

/-
  A wrapper that fills a new one filled the body before: all
  its lines are two lines further up there, less one.
-/
theorem exists_wrapped_of_inner
    {own new : Lines}
    {n innerOpen innerClose : Nat}
    (hWindow : Lines.Window rule own 1 new 2 n)
    (hInner : Lines.nextFilled? new 2 = some innerOpen)
    (hOpens :
      rule.opensWrapper (Lines.get new innerOpen) = true)
    (hEnd : Block.close? new innerOpen = some innerClose)
    (hNext :
      Lines.nextFilled? new (innerClose + 1) = some (n + 2))
    (hCloses :
      rule.closesEither (Lines.get new innerClose) = true) :
    ∃ first stop,
      Wrapped rule own 0 (n + 1) first stop ∧
        rule.closesEither (Lines.get own stop) = true := by
  have hStart := Lines.le_nextFilled? hInner
  have hLess := Block.lt_close? hEnd
  rcases Lines.nextFilled?_eq_some_iff.mp hNext with
    ⟨hStop, _, hBlank⟩
  obtain ⟨f, rfl⟩ :=
    Nat.exists_eq_add_of_le (show 2 ≤ innerOpen by omega)
  obtain ⟨g, rfl⟩ :=
    Nat.exists_eq_add_of_le (show 2 ≤ innerClose by omega)
  have hBack := hWindow.symm
  refine ⟨1 + f, 1 + g, ⟨?_, ?_, ?_, ?_⟩, ?_⟩
  · exact hBack.nextFilled? (i := 0) (by omega) hInner
  · rw [Lines.lastFilled?_eq_some_iff]
    refine ⟨by omega, by omega, ?_, ?_⟩
    · rw [← (hBack g (by omega)).blank]
      apply Line.not_allBlank_of_braceBalance_ne
      rw [Rule.braceBalance_of_closesEither hCloses]
      decide
    · intro i hi hiStop
      obtain ⟨j, rfl⟩ :=
        Nat.exists_eq_add_of_le (show 1 ≤ i by omega)
      rw [← (hBack j (by omega)).blank]
      exact hBlank (2 + j) (by omega) (by omega)
  · rw [← (hBack f (by omega)).opens]
    exact hOpens
  · exact hBack.close? (by omega) hEnd
  · rw [← (hBack g (by omega)).closes]
    exact hCloses

section NewWrapper

variable (decl opening closing last : Line)

theorem get_wrapped_close
    (body : Lines) :
    Lines.get
        (wrappedLines decl opening body closing last)
        (body.length + 2) = closing := by
  unfold wrappedLines
  rw [Lines.get_cons_succ, Lines.get_cons_succ,
    Lines.get_length_append, Lines.get_cons_zero]

theorem get_wrapped_stop
    (body : Lines) :
    Lines.get
        (wrappedLines decl opening body closing last)
        (body.length + 3) = last := by
  unfold wrappedLines
  rw [Lines.get_cons_succ, Lines.get_cons_succ,
    Lines.get_append_right, Lines.get_cons_succ,
    Lines.get_cons_zero]

variable {inner body : Lines}
variable (hLength : body.length = inner.length)
variable
  (hBody : ∀ i,
    rule.Alike (Lines.get inner i) (Lines.get body i))

include hLength hBody

/- The body of a method with and without its new wrapper. -/
theorem window_wrapped :
    Lines.Window rule (decl :: (inner ++ [last])) 1
      (wrappedLines decl opening body closing last) 2
      inner.length := by
  intro i hi
  unfold wrappedLines
  rw [Nat.add_comm 1 i, Nat.add_comm 2 i,
    Lines.get_cons_succ, Lines.get_cons_succ,
    Lines.get_cons_succ, Lines.get_append_left _ _ hi,
    Lines.get_append_left _ _ (by omega)]
  exact hBody i

variable {opening closing}
variable (hOpen : rule.opensWrapper opening = true)
variable (hClose : rule.closesWrapper closing = true)

include hOpen hClose

/- Inside of the wrapper the depth is greater by one. -/
theorem depth_wrapped :
    (∀ j, j ≤ inner.length →
      Lines.depth
          (wrappedLines decl opening body closing last)
          (j + 2) =
        Lines.depth (decl :: (inner ++ [last])) (j + 1) +
          1) ∧
      Lines.depth
          (wrappedLines decl opening body closing last)
          (inner.length + 3) =
        Lines.depth (decl :: (inner ++ [last]))
          (inner.length + 1) ∧
      Lines.depth
          (wrappedLines decl opening body closing last)
          (inner.length + 4) =
        Lines.depth (decl :: (inner ++ [last]))
          (inner.length + 2) := by
  have hWindow :=
    window_wrapped decl opening closing last hLength hBody
  have hOpening := Rule.braceBalance_of_opensWrapper hOpen
  have hClosing :=
    Rule.braceBalance_of_closesEither
      (Rule.closesEither_of_closesWrapper hClose)
  have hInside : ∀ j, j ≤ inner.length →
      Lines.depth
          (wrappedLines decl opening body closing last)
          (j + 2) =
        Lines.depth (decl :: (inner ++ [last])) (j + 1) +
          1 := by
    intro j hj
    have hPart :=
      hWindow.depth (i := 0) (j := j) (Nat.zero_le j) hj
    have hFirst :
        Lines.depth
            (wrappedLines decl opening body closing last)
            2 =
          Line.braceBalance decl + 1 := by
      unfold wrappedLines
      rw [Lines.depth_cons_succ, Lines.depth_cons_succ,
        Lines.depth_zero, hOpening]
      rfl
    have hOwn :
        Lines.depth (decl :: (inner ++ [last])) 1 =
          Line.braceBalance decl := by
      rw [Lines.depth_cons_succ, Lines.depth_zero]
      omega
    rw [Nat.add_zero, Nat.add_zero, Nat.add_comm 1 j,
      Nat.add_comm 2 j, hFirst, hOwn] at hPart
    omega
  have hLast := hInside inner.length le_rfl
  have hBehind :
      Lines.depth
          (wrappedLines decl opening body closing last)
          (inner.length + 3) =
        Lines.depth (decl :: (inner ++ [last]))
          (inner.length + 1) := by
    rw [Lines.depth_succ, hLast, ← hLength,
      get_wrapped_close, hClosing]
    omega
  refine ⟨hInside, hBehind, ?_⟩
  rw [Lines.depth_succ, hBehind, Lines.depth_succ _
    (inner.length + 1), get_whole_stop, ← hLength,
    get_wrapped_stop]

variable {decl last}

/- A new wrapper leaves the ends of a method as they are. -/
theorem spans_wrapped
    (hWhole : Whole rule (decl :: (inner ++ [last]))) :
    Spans rule
      (wrappedLines decl opening body closing last) 0
      (inner.length + 3) := by
  rcases depth_wrapped decl last hLength hBody hOpen hClose
    with ⟨hInside, hBehind, hEnd⟩
  have hStop :
      (decl :: (inner ++ [last])).length - 1 =
        inner.length + 1 := by
    simp
  unfold Whole at hWhole
  rw [hStop] at hWhole
  rcases Block.close?_eq_some_iff.mp hWhole.closes with
    ⟨_, hOwnEnd, hOwnInside⟩
  rw [Nat.zero_add] at hOwnEnd hOwnInside
  have hFirst :
      Lines.depth
          (wrappedLines decl opening body closing last) 1 =
        Lines.depth (decl :: (inner ++ [last])) 1 := by
    unfold wrappedLines
    rw [Lines.depth_cons_succ, Lines.depth_cons_succ,
      Lines.depth_zero, Lines.depth_zero]
  constructor
  · rw [Block.close?_eq_some_iff]
    refine ⟨by omega, ?_, ?_⟩
    · rw [hEnd, hFirst]
      exact hOwnEnd
    · intro i hi hiStop
      rw [hFirst]
      by_cases hOne : i = 1
      · rw [hOne]
        exact Int.le_of_eq hFirst.symm
      · by_cases hLastLine : i = inner.length + 3
        · rw [hLastLine, hBehind]
          exact hOwnInside _ (by omega) (by omega)
        · obtain ⟨j, rfl⟩ :=
            Nat.exists_eq_add_of_le' (show 2 ≤ i by omega)
          have := hOwnInside (j + 1) (by omega) (by omega)
          rw [hInside j (by omega)]
          omega
  · exact hWhole.opener

/- The new wrapper is the body, if one brace closes that. -/
theorem wrapped_wrapped
    (hWhole : Whole rule (decl :: (inner ++ [last])))
    (hLast : Line.braceBalance last = -1) :
    Wrapped rule
      (wrappedLines decl opening body closing last) 0
      (inner.length + 3) 1 (inner.length + 2) := by
  rcases depth_wrapped decl last hLength hBody hOpen hClose
    with ⟨hInside, hBehind, _⟩
  have hStop :
      (decl :: (inner ++ [last])).length - 1 =
        inner.length + 1 := by
    simp
  unfold Whole at hWhole
  rw [hStop] at hWhole
  rcases Block.close?_eq_some_iff.mp hWhole.closes with
    ⟨_, hOwnEnd, hOwnInside⟩
  rw [Nat.zero_add] at hOwnEnd hOwnInside
  have hOwnLast :=
    Lines.depth_succ (decl :: (inner ++ [last]))
      (inner.length + 1)
  rw [get_whole_stop, hLast] at hOwnLast
  have hTwo := hInside 0 (Nat.zero_le _)
  rw [Nat.zero_add, Nat.zero_add] at hTwo
  have hClosing :=
    get_wrapped_close decl opening closing last body
  rw [hLength] at hClosing
  constructor
  · rw [Lines.nextFilled?_eq_some_iff]
    refine ⟨le_rfl, ?_, by omega⟩
    apply Line.not_allBlank_of_braceBalance_ne
    have hBalance := Rule.braceBalance_of_opensWrapper hOpen
    unfold wrappedLines
    rw [Lines.get_cons_succ, Lines.get_cons_zero, hBalance]
    decide
  · rw [Lines.lastFilled?_eq_some_iff]
    refine ⟨by omega, by omega, ?_, by omega⟩
    apply Line.not_allBlank_of_braceBalance_ne
    rw [hClosing, Rule.braceBalance_of_closesEither
      (Rule.closesEither_of_closesWrapper hClose)]
    decide
  · exact hOpen
  · rw [Block.close?_eq_some_iff]
    refine ⟨by omega, ?_, ?_⟩
    · rw [hBehind, hTwo]
      omega
    · intro i hi hiStop
      obtain ⟨j, rfl⟩ :=
        Nat.exists_eq_add_of_le' (show 2 ≤ i by omega)
      have := hOwnInside (j + 1) (by omega) (by omega)
      rw [hInside j (by omega), hTwo]
      omega

/-
  A body that was no wrapper makes the new one a single
  wrapper: two wrappers inside each other would mean that the
  inner one was the whole body before.
-/
theorem canonical_wrapped
    (hWhole : Whole rule (decl :: (inner ++ [last])))
    (hLast : Line.braceBalance last = -1)
    (hPlain : rule.closesAnnotated last = false)
    (hUnwrapped : ∀ first stop,
      Wrapped rule (decl :: (inner ++ [last])) 0
          (inner.length + 1) first stop →
        rule.closesEither
            (Lines.get (decl :: (inner ++ [last])) stop) =
          false) :
    Canonical rule
      (wrappedLines decl opening body closing last) 0
      (inner.length + 3) := by
  have hSpans :=
    spans_wrapped hLength hBody hOpen hClose hWhole
  have hWrapped :=
    wrapped_wrapped hLength hBody hOpen hClose hWhole hLast
  have hWindow :=
    window_wrapped decl opening closing last hLength hBody
  have hClosing :=
    get_wrapped_close decl opening closing last body
  rw [hLength] at hClosing
  have hStop :=
    get_wrapped_stop decl opening closing last body
  rw [hLength] at hStop
  refine ⟨hSpans, ?_, ?_, 1, inner.length + 2, hWrapped, ?_⟩
  · rw [← Option.not_isSome_iff_eq_none,
      Repair.collapse?_isSome_iff hSpans]
    rintro ⟨first, pair, hFirst, hPair⟩
    rw [hWrapped.isFirst, Option.some.injEq] at hFirst
    subst hFirst
    rcases Wrapper.stackedAt?_eq_some_iff.mp hPair with
      ⟨_, hInner, hInnerOpens, hOuter, hInnerEnd, hNext,
        hInnerCloses, _⟩
    rw [hWrapped.closes, Option.some.injEq] at hOuter
    rw [← hOuter] at hNext
    rcases exists_wrapped_of_inner hWindow hInner hInnerOpens
        hInnerEnd hNext hInnerCloses with
      ⟨inside, stop, hInside, hCloses⟩
    rw [hUnwrapped inside stop hInside] at hCloses
    cases hCloses
  · rw [← Option.not_isSome_iff_eq_none,
      Repair.dropSurplus?_isSome_iff hSpans]
    rintro ⟨other, hOther, _, _, hAnnotated⟩
    rw [hWrapped.isLast, Option.some.injEq] at hOther
    rw [← hOther, hClosing, hStop, hPlain] at hAnnotated
    rw [Rule.closesWrapper_eq, Bool.and_eq_true,
      Bool.not_eq_true'] at hClose
    rw [hClose.2] at hAnnotated
    rcases hAnnotated with hAnnotated | hAnnotated
    all_goals cases hAnnotated
  · rw [hClosing]
    exact hClose

end NewWrapper

/- Wrapping a method, with its lines given one by one. -/
theorem wrap_eq_wrappedLines
    (reindent : Bool)
    {method : Method}
    (decl last : Line)
    (inner : Lines)
    (hStart : method.start = 0)
    (hStop : method.stop = inner.length + 1) :
    (method.wrap rule reindent
        (decl :: (inner ++ [last]))).1 =
      wrappedLines decl
        (method.indent ++ method.unit ++ rule.wrapOpen)
        (if reindent then
          inner.map (Line.shift method.unit)
        else
          inner)
        (method.indent ++ method.unit ++ rule.wrapClose)
        last := by
  have hInterior :
      method.interior (decl :: (inner ++ [last])) =
        inner := by
    unfold interior
    rw [hStart, hStop, Nat.zero_add, List.drop_one,
      List.tail_cons, Nat.sub_zero, Nat.add_sub_cancel,
      List.take_left]
  have hDrop :
      (decl :: (inner ++ [last])).drop (inner.length + 1) =
        [last] := by
    rw [List.drop_succ_cons, List.drop_left]
  unfold wrap wrappedLines
  simp only [hInterior, hStart, hStop, hDrop, Nat.zero_add,
    List.take_succ_cons, List.take_zero, List.cons_append,
    List.nil_append]

/- Moving the body in is no change to the searches. -/
theorem alike_shifted
    (rule : Rule)
    (reindent : Bool)
    {unit : Text}
    (inner : Lines)
    (hUnit : Text.allBlank unit = true)
    (i : Nat) :
    rule.Alike (Lines.get inner i)
      (Lines.get
        (if reindent then
          inner.map (Line.shift unit)
        else
          inner) i) := by
  split
  · rw [Lines.get_map inner rfl]
    exact Rule.Alike.of_trim_eq
      (Line.trim_shift _ hUnit).symm
  · exact Rule.Alike.refl _

theorem length_shifted
    (reindent : Bool)
    (unit : Text)
    (inner : Lines) :
    (if reindent then
        inner.map (Line.shift unit)
      else
        inner).length = inner.length := by
  split
  · exact List.length_map _
  · rfl

/- A method with a new wrapper closes two lines later. -/
theorem spans_wrap
    (reindent : Bool)
    {method : Method}
    {decl last : Line}
    {inner : Lines}
    (hWhole : Whole rule (decl :: (inner ++ [last])))
    (hStart : method.start = 0)
    (hStop : method.stop = inner.length + 1)
    (hIndent : Text.allBlank method.indent = true)
    (hUnit : Text.allBlank method.unit = true) :
    Spans rule
      (method.wrap rule reindent
        (decl :: (inner ++ [last]))).1 0
      (inner.length + 3) := by
  have hDeep :
      Text.allBlank (method.indent ++ method.unit) = true :=
    by simp [hIndent, hUnit]
  rw [wrap_eq_wrappedLines reindent decl last inner hStart
    hStop]
  exact spans_wrapped
    (length_shifted reindent method.unit inner)
    (alike_shifted rule reindent inner hUnit)
    (Rule.opensWrapper_append hDeep)
    (Rule.closesWrapper_append hDeep) hWhole

------------------------------------------------------------
-- Finished Methods
------------------------------------------------------------

/-
  The lines of a method on which a rewrite has nothing left
  to do, without a declaration in its body.
-/
structure Finished
    (rule : Rule)
    (own : Lines) : Prop where
  canonical : Canonical rule own 0 (own.length - 1)
  inside : ∀ i, 0 < i →
    opener? rule (Lines.get own i) = none

variable {rule : Rule}
variable {own : Lines}
variable {method : Method}

/- A wrapper that loses the annotation of its end. -/
theorem finished_normalize
    (hWhole : Whole rule own)
    (hCollapse : Repair.collapse? rule 0 own = none)
    (hDrop : Repair.dropSurplus? rule 0 own = none)
    {first last : Nat}
    (hWrapped :
      Wrapped rule own 0 (own.length - 1) first last)
    (hCloses :
      rule.closesEither (Lines.get own last) = true)
    (hInside : ∀ i, 0 < i →
      opener? rule (Lines.get own i) = none) :
    Finished rule (Repair.normalize rule 0 own).1 := by
  constructor
  · rw [Repair.length_normalize]
    exact canonical_normalize hWhole hCollapse hDrop hWrapped
      hCloses
  · intro i hi
    rw [Repair.get_normalize hWhole.closes]
    split
    · apply opener?_append_left (Text.allBlank_leading _)
      apply opener?_of_braceBalance_ne
      rw [rule.wrapClose_balance]
      decide
    · exact hInside i hi

/- Moving a line in does not make it a declaration. -/
theorem opener?_shift
    {unit : Text}
    {line : Line}
    (hUnit : Text.allBlank unit = true)
    (hNone : opener? rule line = none) :
    opener? rule (Line.shift unit line) = none := by
  unfold Line.shift
  split
  · exact hNone
  · exact opener?_append_left hUnit hNone

/- No line behind a new opening line is a declaration. -/
theorem opener?_wrapped
    {unit indent : Text}
    {inner : Lines}
    {last : Line}
    (reindent : Bool)
    (hLength :
      (if reindent then
          inner.map (Line.shift unit)
        else
          inner).length = inner.length)
    (hUnit : Text.allBlank unit = true)
    (hIndent : Text.allBlank indent = true)
    (hInner : ∀ i,
      opener? rule (Lines.get (inner ++ [last]) i) = none)
    (k : Nat) :
    opener? rule
        (Lines.get
          ((if reindent then
              inner.map (Line.shift unit)
            else
              inner) ++
            [indent ++ rule.wrapClose, last]) k) =
      none := by
  by_cases hBody : k < inner.length
  · have hLine := hInner k
    rw [Lines.get_append_left _ _ hBody] at hLine
    rw [Lines.get_append_left _ _ (by omega)]
    split
    · rw [Lines.get_map inner rfl]
      exact opener?_shift hUnit hLine
    · exact hLine
  · obtain ⟨m, rfl⟩ :=
      Nat.exists_eq_add_of_le (Nat.le_of_not_lt hBody)
    have hLine := hInner (inner.length + m)
    rw [Lines.get_append_right] at hLine
    rw [← hLength, Lines.get_append_right]
    cases m with
    | zero =>
        rw [Lines.get_cons_zero]
        apply opener?_append_left hIndent
        apply opener?_of_braceBalance_ne
        rw [rule.wrapClose_balance]
        decide
    | succ m =>
        rw [Lines.get_cons_succ]
        cases m with
        | zero =>
            have hLast := hInner inner.length
            rw [Lines.get_length_append] at hLast
            exact hLast
        | succ m =>
            apply opener?_of_braceBalance_ne
            rw [Lines.get_cons_succ, Lines.get_nil]
            decide

/- A body that gets its wrapper. -/
theorem finished_wrap
    (hPlain : rule.Plain)
    (reindent : Bool)
    {decl last : Line}
    {inner : Lines}
    (hWhole : Whole rule (decl :: (inner ++ [last])))
    (hStart : method.start = 0)
    (hStop : method.stop = inner.length + 1)
    (hIndent : Text.allBlank method.indent = true)
    (hUnit : Text.allBlank method.unit = true)
    (hLast : Line.braceBalance last = -1)
    (hAnnotated : rule.closesAnnotated last = false)
    (hUnwrapped : ∀ first stop,
      Wrapped rule (decl :: (inner ++ [last])) 0
          (inner.length + 1) first stop →
        rule.closesEither
            (Lines.get (decl :: (inner ++ [last])) stop) =
          false)
    (hInside : ∀ i, 0 < i →
      opener? rule
        (Lines.get (decl :: (inner ++ [last])) i) = none) :
    Finished rule
      (method.wrap rule reindent
        (decl :: (inner ++ [last]))).1 := by
  have hDeep :
      Text.allBlank (method.indent ++ method.unit) = true :=
    by simp [hIndent, hUnit]
  have hLength :=
    length_shifted reindent method.unit inner
  have hInner : ∀ i,
      opener? rule (Lines.get (inner ++ [last]) i) = none :=
    fun i => hInside (i + 1) (Nat.succ_pos i)
  rw [wrap_eq_wrappedLines reindent decl last inner hStart
    hStop]
  constructor
  · have hCanonical :=
      canonical_wrapped hLength
        (alike_shifted rule reindent inner hUnit)
        (Rule.opensWrapper_append hDeep)
        (Rule.closesWrapper_append hDeep) hWhole hLast
        hAnnotated hUnwrapped
    unfold wrappedLines at hCanonical ⊢
    simp only [List.length_cons, List.length_append,
      List.length_nil, hLength]
    exact hCanonical
  · intro i hi
    obtain ⟨j, rfl⟩ :=
      Nat.exists_eq_add_of_le' (show 1 ≤ i by omega)
    unfold wrappedLines
    rw [Lines.get_cons_succ]
    cases j with
    | zero =>
        rw [Lines.get_cons_zero]
        apply opener?_append_left hDeep
        apply opener?_of_declaredName?
        exact hPlain.undeclared _
          rule.wrapOpen_mem_fixedLines
    | succ k =>
        rw [Lines.get_cons_succ]
        exact opener?_wrapped reindent hLength hUnit hDeep
          hInner k

/- The ends of a method stay as they are. -/
theorem ends_wrap
    (reindent : Bool)
    (decl last : Line)
    (inner : Lines)
    (hStart : method.start = 0)
    (hStop : method.stop = inner.length + 1) :
    let next :=
      (method.wrap rule reindent
        (decl :: (inner ++ [last]))).1
    Lines.get next 0 = decl ∧
      Lines.get next (next.length - 1) = last := by
  intro next
  unfold next
  rw [wrap_eq_wrappedLines reindent decl last inner hStart
    hStop, length_wrappedLines]
  exact ⟨rfl, get_wrapped_stop _ _ _ _ _⟩

/-
  A method that closes with one brace, and with no annotation
  on it, is finished by rewriting its body once, unless it is
  doubled.  Its first and its last line stay.
-/
theorem finished_rewriteBody
    (hPlain : rule.Plain)
    (reindent : Bool)
    (hWhole : Whole rule own)
    (hStart : method.start = 0)
    (hStop : method.stop = own.length - 1)
    (hIndent : Text.allBlank method.indent = true)
    (hUnit : Text.allBlank method.unit = true)
    (hState : method.bodyState rule own ≠ .doubled)
    (hLast :
      Line.braceBalance
        (Lines.get own (own.length - 1)) = -1)
    (hAnnotated :
      rule.closesAnnotated
        (Lines.get own (own.length - 1)) = false)
    (hInside : ∀ i, 0 < i →
      opener? rule (Lines.get own i) = none) :
    let next := (method.rewriteBody rule reindent own).lines
    Finished rule next ∧
      Lines.get next 0 = Lines.get own 0 ∧
      Lines.get next (next.length - 1) =
        Lines.get own (own.length - 1) := by
  have hSpans : Spans rule own method.start method.stop := by
    rw [hStart, hStop]
    exact hWhole
  rcases settled_of_ne_doubled hSpans hState with
    ⟨hCollapse, hDrop⟩
  rw [hStart] at hCollapse hDrop
  intro next
  cases hCase : method.bodyState rule own with
  | canonical =>
      have hNext : next = own := by
        unfold next rewriteBody
        simp only [hCase]
      have hCanonical := canonical_of_bodyState hSpans hCase
      rw [hStart, hStop] at hCanonical
      rw [hNext]
      exact ⟨⟨hCanonical, hInside⟩, rfl, rfl⟩
  | legacy =>
      have hNext :
          next = (Repair.normalize rule 0 own).1 := by
        unfold next rewriteBody repair
        simp only [hCase]
        rw [hStart, Repair.settle_of_none hCollapse hDrop]
      rw [bodyState_eq_legacy_iff hSpans] at hCase
      rcases hCase with
        ⟨_, _, first, last, hWrapped, hCloses⟩
      rw [hStart, hStop] at hWrapped
      rw [hNext]
      refine ⟨finished_normalize hWhole hCollapse hDrop
        hWrapped
        (Rule.closesEither_of_closesAnnotated hCloses)
        hInside, ?_, ?_⟩
      · rw [Repair.get_normalize hWhole.closes,
          if_neg (by omega)]
      · rw [Repair.length_normalize,
          Repair.get_normalize hWhole.closes,
          if_neg (by omega)]
  | doubled => exact absurd hCase hState
  | unwrapped =>
      rcases hWhole.exists_eq with ⟨decl, inner, last, rfl⟩
      have hLength :
          (decl :: (inner ++ [last])).length - 1 =
            inner.length + 1 := by
        simp
      rw [hLength] at hStop hLast hAnnotated ⊢
      rw [get_whole_stop] at hLast hAnnotated ⊢
      have hNext :
          next =
            (method.wrap rule reindent
              (decl :: (inner ++ [last]))).1 := by
        unfold next rewriteBody
        simp only [hCase]
      rw [hNext]
      refine ⟨finished_wrap hPlain reindent hWhole hStart
        hStop hIndent hUnit hLast hAnnotated ?_ hInside,
        ends_wrap reindent decl last inner hStart hStop⟩
      intro first stop hWrapped
      rw [← hStart, ← hStop] at hWrapped
      exact closesEither_of_unwrapped hSpans hCase hWrapped

end Method

------------------------------------------------------------
-- Renaming
------------------------------------------------------------

namespace Rule

open Identifier

variable {rule : Rule}

/- A text that mentions no name stays as it is. -/
theorem Unnamed.renamed_eq
    {text : Text}
    (hText : rule.Unnamed text) :
    rule.renamed text = text := by
  by_cases hEq : rule.oldName = rule.newName
  · exact rule.renamed_of_eq hEq text
  · rw [rule.renamed_of_ne hEq,
      rename_eq_self rule.oldName_isName _
        (hText.not_mem_tokens List.mem_cons_self)]

/- No other text becomes one that mentions no name. -/
theorem Unnamed.eq_of_renamed_eq
    {text line : Text}
    (hText : rule.Unnamed text)
    (hLine : rule.renamed line = text) :
    line = text := by
  by_cases hEq : rule.oldName = rule.newName
  · rw [rule.renamed_of_eq hEq] at hLine
    exact hLine
  · have hNew : rule.newName ∈ rule.names := by
      unfold names
      simp
    rw [rule.renamed_of_ne hEq] at hLine
    have hMention : rule.oldName ∉ tokens line := by
      intro hOld
      apply hText.not_mem_tokens hNew
      rw [← hLine, tokens_rename rule.oldName_isName
        rule.newName_isName]
      apply List.mem_map.mpr
      exact ⟨rule.oldName, hOld, by
        rw [replaceToken, if_pos rfl]⟩
    rw [rename_eq_self rule.oldName_isName _ hMention]
      at hLine
    exact hLine

/- Whether a line is a fixed one, before and after renaming. -/
theorem Unnamed.trim_renamed_iff
    {text : Text}
    (hText : rule.Unnamed text)
    (line : Line) :
    Text.trim (rule.renamed line) = text ↔
      Text.trim line = text := by
  rw [rule.trim_renamed]
  constructor
  · exact hText.eq_of_renamed_eq
  · intro hTrim
    rw [hTrim]
    exact hText.renamed_eq

/- Renaming is no change to the searches. -/
theorem alike_renamed
    (hPlain : rule.Plain)
    (line : Line) :
    rule.Alike line (rule.renamed line) := by
  have hOpen :=
    hPlain.unnamed _ rule.wrapOpen_mem_fixedLines
  have hClose :=
    hPlain.unnamed _ rule.wrapClose_mem_fixedLines
  have hLegacy :=
    hPlain.unnamed _ rule.legacyClose_mem_fixedLines
  constructor
  · exact (rule.allBlank_renamed line).symm
  · exact (rule.braceBalance_renamed line).symm
  · rw [Bool.eq_iff_iff, opensWrapper_iff, opensWrapper_iff,
      hOpen.trim_renamed_iff]
  · rw [Bool.eq_iff_iff, closesEither_iff, closesEither_iff,
      hClose.trim_renamed_iff, hLegacy.trim_renamed_iff]

theorem closesAnnotated_renamed
    (hPlain : rule.Plain)
    (line : Line) :
    rule.closesAnnotated (rule.renamed line) =
      rule.closesAnnotated line := by
  have hLegacy :=
    hPlain.unnamed _ rule.legacyClose_mem_fixedLines
  rw [Bool.eq_iff_iff, closesAnnotated_iff,
    closesAnnotated_iff, hLegacy.trim_renamed_iff]

end Rule

namespace Method

variable {rule : Rule}
variable {own : Lines}

/- A finished method is finished with its lines renamed. -/
theorem Finished.renamed
    (hPlain : rule.Plain)
    (hFinished : Finished rule own) :
    Finished rule (own.map rule.renamed) := by
  have hLength := hFinished.canonical.spans.lt
  have hOpener := hFinished.canonical.spans.opener
  have hWindow :
      Lines.Window rule own 0 (own.map rule.renamed) 0
        own.length := by
    intro i _
    rw [Lines.get_map own rule.renamed_nil]
    exact Rule.alike_renamed hPlain _
  constructor
  · rw [List.length_map]
    have hStop :
        0 + (own.length - 1) = own.length - 1 := by
      omega
    rw [← hStop]
    apply hWindow.canonical
    · intro i _
      rw [Lines.get_map own rule.renamed_nil,
        Rule.closesAnnotated_renamed hPlain]
    · omega
    · rw [Lines.get_map own rule.renamed_nil,
        opener?_renamed hPlain.clear, Option.isSome_map]
      exact hOpener
    · rw [hStop]
      exact hFinished.canonical
  · intro i hi
    rw [Lines.get_map own rule.renamed_nil,
      opener?_renamed hPlain.clear, hFinished.inside i hi]
    rfl

end Method

end NotifyScope
