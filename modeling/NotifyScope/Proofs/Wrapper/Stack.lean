import NotifyScope.Proofs.Method.Context
import NotifyScope.Proofs.Wrapper.Nest

/-
  Collapsing a nest of wrappers.  With the lines in front of
  each of its lines spelled out, a step of a repair takes the
  outermost two wrappers of a body and leaves one, so that a
  nest of any height goes down to a single wrapper; and that
  one is left alone, unless its core is a wrapper as well.

  Main declarations:
    * `Repair.collapse?_of_outdent`
    * `Repair.collapse?_seen_cons`
    * `Repair.collapse?_single_eq_none`
    * `Repair.exists_collapse?_pair`
    * `Repair.settle_nest`
-/

------------------------------------------------------------
-- Lines by the Lines in Front of Them
------------------------------------------------------------

namespace NotifyScope

namespace Block

/- A block around even lines closes behind them. -/
theorem close?_of_runs
    (seen : Lines)
    (line : Line)
    {inner : Lines}
    {closing : Line}
    (rest : Lines)
    (hRuns : Lines.Runs 0 inner 0)
    (hClosing : Line.braceBalance closing = -1) :
    close? (seen ++ line :: (inner ++ closing :: rest))
        seen.length =
      some (seen ++ line :: inner).length := by
  have hWalk := hRuns.closeOffset?_append (closing :: rest)
  rw [closeOffset?] at hWalk
  simp only [hClosing, Int.add_zero] at hWalk
  rw [if_pos (by decide), Option.map_some] at hWalk
  rw [Method.close?_seen_cons, hWalk, Option.map_some]
  simp only [List.length_append, List.length_cons]
  congr 1
  omega

end Block

/- A declaration spans the even lines in front of its end. -/
theorem Method.spans_of_runs
    {rule : Rule}
    (seen : Lines)
    {decl last : Line}
    {body : Lines}
    (rest : Lines)
    (hOpener : (opener? rule decl).isSome = true)
    (hBody : Lines.Runs 0 body 0)
    (hLast : Line.braceBalance last = -1) :
    Spans rule (seen ++ decl :: (body ++ last :: rest))
      seen.length (seen ++ decl :: body).length := by
  refine ⟨Block.close?_of_runs seen decl rest hBody hLast, ?_⟩
  rw [get_seen_cons]
  exact hOpener

namespace Lines

theorem eraseIdx_length_append
    (seen : Lines)
    (line : Line)
    (rest : Lines) :
    (seen ++ line :: rest).eraseIdx seen.length =
      seen ++ rest := by
  rw [List.eraseIdx_append_of_length_le le_rfl,
    Nat.sub_self, List.eraseIdx_cons_zero]

/- Only the lines in between are moved back. -/
theorem outdent_seen_cons
    (seen : Lines)
    (line : Line)
    (inner rest : Lines)
    {outer : Nat}
    {lead : Text}
    (hLead :
      Text.leading
          (get (seen ++ line :: (inner ++ rest)) outer) =
        lead)
    (hPrefix : lead.isPrefixOf (Text.leading line) = true) :
    outdent (seen ++ line :: (inner ++ rest)) outer
        seen.length (seen ++ line :: inner).length =
      seen ++ line ::
        (inner.map (Line.outdent lead (Text.leading line)) ++
          rest) := by
  have hSplit :
      ∀ core : Lines,
        seen ++ line :: (core ++ rest) =
          (seen ++ [line]) ++ (core ++ rest) := by
    intro core
    rw [List.append_assoc, List.singleton_append]
  unfold outdent
  simp only [hLead, Method.get_seen_cons]
  rw [if_pos hPrefix, hSplit, mapIdx_context, hSplit]
  · congr 2
    apply List.ext_getElem (by simp)
    intro i hi _
    rw [List.length_mapIdx] at hi
    simp only [List.getElem_map, List.getElem_mapIdx,
      List.length_append, List.length_cons, List.length_nil]
    rw [if_pos (by omega)]
  · intro i other hi
    simp only [List.length_append, List.length_cons,
      List.length_nil] at hi ⊢
    rw [if_neg (by omega)]

/- The lines that are moved back lose white space only. -/
theorem exists_outdent
    (seen : Lines)
    (line : Line)
    (inner rest : Lines)
    (outer : Nat) :
    ∃ core,
      core.map Text.trimLeft = inner.map Text.trimLeft ∧
        outdent (seen ++ line :: (inner ++ rest)) outer
            seen.length (seen ++ line :: inner).length =
          seen ++ line :: (core ++ rest) := by
  cases hPrefix :
      (Text.leading
        (get (seen ++ line :: (inner ++ rest))
          outer)).isPrefixOf (Text.leading line) with
  | true =>
      refine ⟨_, ?_,
        outdent_seen_cons seen line inner rest rfl hPrefix⟩
      rw [List.map_map]
      apply List.map_congr_left
      intro other _
      exact Line.trimLeft_outdent other
        (Text.allBlank_leading _) (Text.allBlank_leading _)
  | false =>
      refine ⟨inner, rfl, ?_⟩
      unfold outdent
      simp only [Method.get_seen_cons, hPrefix]
      rfl

end Lines

------------------------------------------------------------
-- Stacked Wrappers
------------------------------------------------------------

namespace Wrapper

open Lines

variable {rule : Rule}

/- A wrapper in a wrapper, up to blank lines. -/
theorem stackedAt?_seen_cons
    (seen : Lines)
    {gapOpen inner gapClose : Lines}
    (below : Lines)
    {outerOpen innerOpen innerClose outerClose : Line}
    (hGapOpen : filled gapOpen = [])
    (hGapClose : filled gapClose = [])
    (hOuterOpen : rule.opensWrapper outerOpen = true)
    (hInnerOpen : rule.opensWrapper innerOpen = true)
    (hInner : Runs 0 inner 0)
    (hInnerClose : rule.closesEither innerClose = true)
    (hOuterClose : rule.closesEither outerClose = true) :
    stackedAt? rule
        (seen ++ outerOpen :: (gapOpen ++ innerOpen ::
          (inner ++ innerClose :: (gapClose ++
            outerClose :: below)))) seen.length =
      some
        { innerOpen := (seen ++ outerOpen :: gapOpen).length
          innerClose :=
            (seen ++ outerOpen :: gapOpen ++
              innerOpen :: inner).length
          outerClose :=
            (seen ++ outerOpen :: gapOpen ++
              innerOpen :: inner ++
                innerClose :: gapClose).length } := by
  have hHeld :
      Runs 0 (gapOpen ++ innerOpen ::
        (inner ++ innerClose :: gapClose)) 0 := by
    have hWrapper := Runs.wrapper hInnerOpen hInner hInnerClose
    have hAll :=
      ((Runs.of_filled_eq_nil (by decide) hGapOpen).append
        hWrapper).append
          (.of_filled_eq_nil (by decide) hGapClose)
    simpa only [List.append_assoc, List.cons_append,
      List.nil_append] using hAll
  have hOuterEnd := Block.close?_of_runs seen outerOpen below
    hHeld (Rule.braceBalance_of_closesEither hOuterClose)
  have hInnerEnd := Block.close?_of_runs
    (seen ++ outerOpen :: gapOpen) innerOpen
    (gapClose ++ outerClose :: below) hInner
    (Rule.braceBalance_of_closesEither hInnerClose)
  have hFirst := nextFilled?_seen_cons seen outerOpen
    (inner ++ innerClose :: (gapClose ++ outerClose :: below))
    hGapOpen (Rule.allBlank_of_opensWrapper hInnerOpen)
  have hNext := nextFilled?_seen_cons
    (seen ++ outerOpen :: gapOpen ++ innerOpen :: inner)
    innerClose below hGapClose
    (Rule.allBlank_of_closesEither hOuterClose)
  have hAtInnerOpen := Method.get_seen_cons
    (seen ++ outerOpen :: gapOpen) innerOpen
    (inner ++ innerClose :: (gapClose ++ outerClose :: below))
  have hAtInnerClose := Method.get_seen_cons
    (seen ++ outerOpen :: gapOpen ++ innerOpen :: inner)
    innerClose (gapClose ++ outerClose :: below)
  have hAtOuterClose := Method.get_seen_cons
    (seen ++ outerOpen :: gapOpen ++ innerOpen :: inner ++
      innerClose :: gapClose) outerClose below
  simp only [List.append_assoc, List.cons_append]
    at hOuterEnd hInnerEnd hNext hAtInnerOpen hAtInnerClose
      hAtOuterClose ⊢
  rw [stackedAt?_eq_some_iff]
  refine ⟨?_, hFirst, ?_, hOuterEnd, hInnerEnd, hNext, ?_, ?_⟩
  · rw [Method.get_seen_cons]
    exact hOuterOpen
  · rw [hAtInnerOpen]
    exact hInnerOpen
  · rw [hAtInnerClose]
    exact hInnerClose
  · rw [hAtOuterClose]
    exact hOuterClose

/-
  All that a wrapper around lines holds is another wrapper
  only if the lines are one.
-/
theorem isWhole_of_stackedAt?
    {seen core below : Lines}
    {opening closing : Line}
    {pair : StackedPair}
    (hCore : Runs 0 core 0)
    (hClosing : rule.closesEither closing = true)
    (hPair :
      stackedAt? rule
          (seen ++ opening :: (core ++ closing :: below))
          seen.length = some pair) :
    IsWhole rule core := by
  rcases stackedAt?_eq_some_iff.mp hPair with
    ⟨_, hInner, hOpens, hOuter, hEnd, hNext, hCloses, _⟩
  rw [Block.close?_of_runs seen opening below hCore
    (Rule.braceBalance_of_closesEither hClosing),
    Option.some.injEq] at hOuter
  cases hFilled : filled core with
  | nil =>
      -- The next line is the one that closes the wrapper.
      rw [nextFilled?_seen_cons seen opening below hFilled
        (Rule.allBlank_of_closesEither hClosing),
        Option.some.injEq] at hInner
      have hAt := Method.get_seen_cons
        (seen ++ opening :: core) closing below
      rw [List.append_assoc, List.cons_append, hInner] at hAt
      have hBalance := Rule.braceBalance_of_opensWrapper hOpens
      rw [hAt, Rule.braceBalance_of_closesEither hClosing]
        at hBalance
      cases hBalance
  | cons inner rest =>
      rcases exists_of_filled_eq_cons hFilled with
        ⟨gap, after, rfl, hGap, _⟩
      have hMem : inner ∈ filled (gap ++ inner :: after) := by
        rw [hFilled]
        exact List.mem_cons_self
      have hInnerFilled := allBlank_of_mem_filled hMem
      rw [List.append_assoc, List.cons_append,
        nextFilled?_seen_cons seen opening _ hGap hInnerFilled,
        Option.some.injEq] at hInner
      have hSplit :
          seen ++ opening :: (gap ++ inner :: after ++
              closing :: below) =
            (seen ++ opening :: gap) ++ inner ::
              (after ++ closing :: below) := by
        simp
      rw [hSplit] at hOpens hEnd hNext hCloses
      rw [← hInner, Method.get_seen_cons] at hOpens
      rw [← hInner, Method.close?_seen_cons,
        Option.map_eq_some_iff] at hEnd
      rcases hEnd with ⟨k, hWalk, hInnerClose⟩
      rcases nextFilled?_eq_some_iff.mp hNext with
        ⟨hBehind, _, hBlank⟩
      rw [← hOuter] at hBehind hBlank
      simp only [List.length_append, List.length_cons]
        at hInnerClose hBehind
      rcases exists_eq_append_cons
          (show k < after.length by omega) with
        ⟨front, closer, back, rfl, rfl⟩
      have hIndex :
          pair.innerClose =
            (seen ++ opening :: gap ++
              inner :: front).length := by
        simp only [List.length_append, List.length_cons]
        omega
      have hLines :
          seen ++ opening :: gap ++ inner ::
              (front ++ closer :: back ++ closing :: below) =
            (seen ++ opening :: gap ++ inner :: front) ++
              closer :: (back ++ closing :: below) := by
        simp
      rw [hLines, hIndex, Method.get_seen_cons] at hCloses
      have hBack : filled back = [] := by
        apply filled_eq_nil_of_get
        intro i hi
        have hAt := hBlank (pair.innerClose + 1 + i) (by omega)
          (by
            rw [hIndex]
            simp only [List.length_append, List.length_cons]
            omega)
        rw [hLines, hIndex, Nat.add_assoc, get_append_right,
          Nat.add_comm 1, get_cons_succ,
          get_append_left _ _ hi] at hAt
        exact hAt
      have hFront : Runs 0 front 0 := by
        rw [List.append_assoc, List.cons_append] at hWalk
        have hRuns :=
          Runs.of_closeOffset? (Int.le_refl 0) hWalk
        rw [Rule.braceBalance_of_closesEither hCloses]
          at hRuns
        exact hRuns
      refine ⟨inner, filled front, closer, ?_, hOpens,
        Runs.filled_iff.mpr hFront, hCloses⟩
      rw [filled_append, hGap, List.nil_append,
        filled_cons_of_filled _ hInnerFilled, filled_append,
        filled_cons_of_filled _
          (Rule.allBlank_of_closesEither hCloses), hBack]

end Wrapper

------------------------------------------------------------
-- Collapsing
------------------------------------------------------------

namespace Repair

open Lines

variable {rule : Rule}

/- The two lines of the inner wrapper go. -/
theorem collapsed_of_outdent
    (seen : Lines)
    {inner core : Lines}
    (innerOpen innerClose : Line)
    (rest : Lines)
    {first : Nat}
    (outerClose : Nat)
    (hLength : core.length = inner.length)
    (hOutdent :
      outdent
          (seen ++ innerOpen ::
            (inner ++ innerClose :: rest)) first seen.length
          (seen ++ innerOpen :: inner).length =
        seen ++ innerOpen :: (core ++ innerClose :: rest)) :
    collapsed
        (seen ++ innerOpen ::
          (inner ++ innerClose :: rest)) first
        { innerOpen := seen.length
          innerClose := (seen ++ innerOpen :: inner).length
          outerClose } =
      seen ++ (core ++ rest) := by
  have hClose :
      (seen ++ innerOpen :: inner).length =
        (seen ++ innerOpen :: core).length := by
    simp [hLength]
  have hErased := eraseIdx_length_append
    (seen ++ innerOpen :: core) innerClose rest
  rw [List.append_assoc, List.append_assoc, List.cons_append,
    List.cons_append] at hErased
  unfold collapsed
  rw [hOutdent, hClose, hErased, eraseIdx_length_append]

/- A pair of wrappers that starts the body is collapsed. -/
theorem collapse?_of_outdent
    {seen : Lines}
    {decl : Line}
    {gap gapOpen inner core gapClose below : Lines}
    {outerOpen innerOpen innerClose outerClose : Line}
    {stop : Nat}
    (hSpans :
      Method.Spans rule
        (seen ++ decl :: (gap ++ outerOpen ::
          (gapOpen ++ innerOpen :: (inner ++ innerClose ::
            (gapClose ++ outerClose :: below)))))
        seen.length stop)
    (hGap : filled gap = [])
    (hGapOpen : filled gapOpen = [])
    (hGapClose : filled gapClose = [])
    (hOuterOpen : rule.opensWrapper outerOpen = true)
    (hInnerOpen : rule.opensWrapper innerOpen = true)
    (hInner : Runs 0 inner 0)
    (hInnerClose : rule.closesEither innerClose = true)
    (hOuterClose : rule.closesEither outerClose = true)
    (hLength : core.length = inner.length)
    (hOutdent :
      outdent
          (seen ++ decl :: (gap ++ outerOpen ::
            (gapOpen ++ innerOpen :: (inner ++ innerClose ::
              (gapClose ++ outerClose :: below)))))
          (seen ++ decl :: gap).length
          (seen ++ decl :: (gap ++ outerOpen ::
            gapOpen)).length
          (seen ++ decl :: (gap ++ outerOpen ::
            (gapOpen ++ innerOpen :: inner))).length =
        seen ++ decl :: (gap ++ outerOpen ::
          (gapOpen ++ innerOpen :: (core ++ innerClose ::
            (gapClose ++ outerClose :: below))))) :
    collapse? rule seen.length
        (seen ++ decl :: (gap ++ outerOpen ::
          (gapOpen ++ innerOpen :: (inner ++ innerClose ::
            (gapClose ++ outerClose :: below))))) =
      some (seen ++ decl :: (gap ++ outerOpen ::
        (gapOpen ++ (core ++ (gapClose ++
          outerClose :: below))))) := by
  have hPair := Wrapper.stackedAt?_seen_cons
    (seen ++ decl :: gap) below hGapOpen hGapClose hOuterOpen
    hInnerOpen hInner hInnerClose hOuterClose
  have hFirst := nextFilled?_seen_cons seen decl
    (gapOpen ++ innerOpen :: (inner ++ innerClose ::
      (gapClose ++ outerClose :: below)))
    hGap (Rule.allBlank_of_opensWrapper hOuterOpen)
  have hCollapsed := collapsed_of_outdent
    (seen ++ decl :: (gap ++ outerOpen :: gapOpen)) innerOpen
    innerClose (gapClose ++ outerClose :: below)
    (seen ++ decl :: gap ++ outerOpen :: gapOpen ++
      innerOpen :: inner ++ innerClose :: gapClose).length
    hLength (by
      simpa only [List.append_assoc, List.cons_append]
        using hOutdent)
  simp only [List.append_assoc, List.cons_append]
    at hPair hFirst hCollapsed
  have hOpens := (Wrapper.stackedAt?_eq_some_iff.mp hPair).1
  have hLess := hSpans.first_lt_of_opensWrapper hFirst hOpens
  have hOuter := Wrapper.outerClose_lt hSpans.closes hPair
    (le_nextFilled? hFirst) hLess
  exact collapse?_eq_some_iff.mpr
    ⟨stop, _, _, hSpans.closes, hFirst, hLess, hPair, hOuter,
      hCollapsed.symm⟩

/- Its lines only lose white space in front. -/
theorem collapse?_seen_cons
    (seen : Lines)
    (decl : Line)
    {gap gapOpen inner gapClose below : Lines}
    {outerOpen innerOpen innerClose outerClose : Line}
    {stop : Nat}
    (hSpans :
      Method.Spans rule
        (seen ++ decl :: (gap ++ outerOpen ::
          (gapOpen ++ innerOpen :: (inner ++ innerClose ::
            (gapClose ++ outerClose :: below)))))
        seen.length stop)
    (hGap : filled gap = [])
    (hGapOpen : filled gapOpen = [])
    (hGapClose : filled gapClose = [])
    (hOuterOpen : rule.opensWrapper outerOpen = true)
    (hInnerOpen : rule.opensWrapper innerOpen = true)
    (hInner : Runs 0 inner 0)
    (hInnerClose : rule.closesEither innerClose = true)
    (hOuterClose : rule.closesEither outerClose = true) :
    ∃ core,
      core.map Text.trimLeft = inner.map Text.trimLeft ∧
        collapse? rule seen.length
            (seen ++ decl :: (gap ++ outerOpen ::
              (gapOpen ++ innerOpen :: (inner ++
                innerClose :: (gapClose ++
                  outerClose :: below))))) =
          some (seen ++ decl :: (gap ++ outerOpen ::
            (gapOpen ++ (core ++ (gapClose ++
              outerClose :: below))))) := by
  rcases exists_outdent
      (seen ++ decl :: (gap ++ outerOpen :: gapOpen))
      innerOpen inner
      (innerClose :: (gapClose ++ outerClose :: below))
      (seen ++ decl :: gap).length with
    ⟨core, hTrim, hOutdent⟩
  have hLength : core.length = inner.length := by
    simpa using congrArg List.length hTrim
  refine ⟨core, hTrim, collapse?_of_outdent hSpans hGap
    hGapOpen hGapClose hOuterOpen hInnerOpen hInner
    hInnerClose hOuterClose hLength ?_⟩
  simpa only [List.append_assoc, List.cons_append]
    using hOutdent

/-
  Nothing is collapsed in a single wrapper around lines that
  are not a wrapper themselves.
-/
theorem collapse?_single_eq_none
    (seen : Lines)
    (decl : Line)
    (below : Lines)
    {gap core : Lines}
    {opening closing : Line}
    (hGap : filled gap = [])
    (hOpening : rule.opensWrapper opening = true)
    (hCore : Runs 0 core 0)
    (hWhole : ¬Wrapper.IsWhole rule core)
    (hClosing : rule.closesEither closing = true) :
    collapse? rule seen.length
        (seen ++ decl :: (gap ++ opening ::
          (core ++ closing :: below))) = none := by
  cases hCollapse :
      collapse? rule seen.length
        (seen ++ decl :: (gap ++ opening ::
          (core ++ closing :: below))) with
  | none => rfl
  | some next =>
      rcases collapse?_eq_some_iff.mp hCollapse with
        ⟨_, first, pair, _, hFirst, _, hPair, _⟩
      rw [nextFilled?_seen_cons seen decl _ hGap
        (Rule.allBlank_of_opensWrapper hOpening),
        Option.some.injEq] at hFirst
      rw [← hFirst] at hPair
      have hSplit :
          seen ++ decl :: (gap ++ opening ::
              (core ++ closing :: below)) =
            (seen ++ decl :: gap) ++ opening ::
              (core ++ closing :: below) := by
        simp
      rw [hSplit] at hPair
      exact absurd
        (Wrapper.isWhole_of_stackedAt? hCore hClosing hPair)
        hWhole

------------------------------------------------------------
-- Nests
------------------------------------------------------------

variable (seen rest : Lines)
variable {decl last : Line}

/-
  A declaration spans a body of even lines with closing lines
  left over: down to the first of these, or to the line below
  if there is none.
-/
theorem exists_spans
    (hOpener : (Method.opener? rule decl).isSome = true)
    {body front surplus : Lines}
    (hBody : filled body = front ++ surplus)
    (hFront : Runs 0 front 0)
    (hSurplus : ∀ line ∈ surplus,
      rule.closesEither line = true)
    (hLast : Line.braceBalance last = -1) :
    ∃ stop,
      Method.Spans rule (seen ++ decl :: (body ++ last :: rest))
        seen.length stop := by
  cases surplus with
  | nil =>
      rw [List.append_nil] at hBody
      have hRuns : Runs 0 body 0 := by
        rw [← Runs.filled_iff, hBody]
        exact hFront
      exact ⟨_, Method.spans_of_runs seen rest hOpener hRuns
        hLast⟩
  | cons first surplus =>
      rcases exists_of_filled_eq_append hBody with
        ⟨before, after, rfl, hBefore, hAfter⟩
      rcases exists_of_filled_eq_cons hAfter with
        ⟨gap, below, rfl, hGap, _⟩
      have hRuns : Runs 0 (before ++ gap) 0 := by
        rw [← Runs.filled_iff, filled_append, hBefore, hGap,
          List.append_nil]
        exact hFront
      have hSpans := Method.spans_of_runs seen
        (below ++ last :: rest) hOpener hRuns
        (Rule.braceBalance_of_closesEither
          (hSurplus first List.mem_cons_self))
      simp only [List.append_assoc, List.cons_append]
        at hSpans ⊢
      exact ⟨_, hSpans⟩

/- The two outermost wrappers of a body become one. -/
theorem exists_collapse?_pair
    (hOpener : (Method.opener? rule decl).isSome = true)
    {body inner surplus : Lines}
    {outerOpen innerOpen innerClose outerClose : Line}
    (hOuterOpen : rule.opensWrapper outerOpen = true)
    (hInnerOpen : rule.opensWrapper innerOpen = true)
    (hInner : Runs 0 inner 0)
    (hInnerClose : rule.closesEither innerClose = true)
    (hOuterClose : rule.closesEither outerClose = true)
    (hSurplus : ∀ line ∈ surplus,
      rule.closesEither line = true)
    (hLast : Line.braceBalance last = -1)
    (hBody : filled body =
      outerOpen :: innerOpen :: (inner ++
        innerClose :: outerClose :: surplus)) :
    ∃ next core,
      filled next =
          outerOpen :: (core ++ outerClose :: surplus) ∧
        core.map Text.trimLeft = inner.map Text.trimLeft ∧
        collapse? rule seen.length
            (seen ++ decl :: (body ++ last :: rest)) =
          some (seen ++ decl :: (next ++ last :: rest)) := by
  have hPair : Runs 0
      (outerOpen :: ((innerOpen :: (inner ++ [innerClose])) ++
        [outerClose])) 0 :=
    .wrapper hOuterOpen
      (.wrapper hInnerOpen hInner hInnerClose) hOuterClose
  have hFront : filled body =
      (outerOpen :: ((innerOpen :: (inner ++ [innerClose])) ++
        [outerClose])) ++ surplus := by
    simpa using hBody
  rcases exists_spans seen rest hOpener hFront hPair hSurplus
      hLast with
    ⟨stop, hSpans⟩
  -- The body between its filled lines, from the top down.
  rcases exists_of_filled_eq_cons hBody with
    ⟨gap, _, rfl, hGap, hAfter⟩
  rcases exists_of_filled_eq_cons hAfter with
    ⟨gapOpen, _, rfl, hGapOpen, hAfter⟩
  rcases exists_of_filled_eq_append hAfter with
    ⟨before, _, rfl, hBefore, hAfter⟩
  rcases exists_of_filled_eq_cons hAfter with
    ⟨gapEnd, _, rfl, hGapEnd, hAfter⟩
  rcases exists_of_filled_eq_cons hAfter with
    ⟨gapClose, below, rfl, hGapClose, hBelow⟩
  have hFilled : filled (before ++ gapEnd) = inner := by
    rw [filled_append, hBefore, hGapEnd, List.append_nil]
  have hRuns : Runs 0 (before ++ gapEnd) 0 := by
    rw [← Runs.filled_iff, hFilled]
    exact hInner
  have hLines :
      gap ++ outerOpen :: (gapOpen ++ innerOpen :: (before ++
          (gapEnd ++ innerClose :: (gapClose ++
            outerClose :: below)))) ++ last :: rest =
        gap ++ outerOpen :: (gapOpen ++ innerOpen ::
          ((before ++ gapEnd) ++ innerClose :: (gapClose ++
            outerClose :: (below ++ last :: rest)))) := by
    simp
  rw [hLines] at hSpans ⊢
  rcases collapse?_seen_cons seen decl hSpans hGap hGapOpen
      hGapClose hOuterOpen hInnerOpen hRuns hInnerClose
      hOuterClose with
    ⟨core, hTrim, hCollapse⟩
  refine ⟨gap ++ outerOpen :: (gapOpen ++ (core ++
    (gapClose ++ outerClose :: below))), filled core, ?_, ?_,
    ?_⟩
  · simp only [filled_append, hGap, hGapOpen, hGapClose,
      hBelow, List.nil_append,
      filled_cons_of_filled _
        (Rule.allBlank_of_opensWrapper hOuterOpen),
      filled_cons_of_filled _
        (Rule.allBlank_of_closesEither hOuterClose)]
  · rw [← hFilled]
    exact map_trimLeft_filled_congr hTrim
  · rw [hCollapse]
    simp

/-
  A tower is collapsed down to its outermost wrapper.  The
  induction is on the number of wrappers inside of that: each
  step takes out the outermost one of these, since it is the
  one that the body starts with.
-/
theorem settle_nest
    (hOpener : (Method.opener? rule decl).isSome = true)
    {surplus : Lines}
    {opening closing : Line}
    (hOpening : rule.opensWrapper opening = true)
    (hClosing : rule.closesEither closing = true)
    (hSurplus : ∀ line ∈ surplus,
      rule.closesEither line = true)
    (hLast : Line.braceBalance last = -1)
    {height : Nat}
    {body opens core closes : Lines}
    (hNest : Wrapper.Nest rule opens core closes)
    (hHeight : opens.length = height)
    (hBody : filled body =
      opening :: (opens ++ (core ++ (closes ++
        closing :: surplus)))) :
    ∃ final kept,
      filled final = opening :: (kept ++ closing :: surplus) ∧
        kept.map Text.trimLeft = core.map Text.trimLeft ∧
        settle rule seen.length
            (seen ++ decl :: (body ++ last :: rest)) =
          ((settle rule seen.length
              (seen ++ decl :: (final ++ last :: rest))).1,
            { (settle rule seen.length
                (seen ++ decl ::
                  (final ++ last :: rest))).2 with
              collapsed :=
                (settle rule seen.length
                  (seen ++ decl ::
                    (final ++ last :: rest))).2.collapsed +
                  height }) := by
  induction height generalizing body opens core closes with
  | zero =>
      rw [List.length_eq_zero_iff] at hHeight
      subst hHeight
      have hCloses : closes = [] := by
        rw [← List.length_eq_zero_iff, ← hNest.height]
        rfl
      subst hCloses
      exact ⟨body, core, hBody, rfl, rfl⟩
  | succ height ih =>
      cases opens with
      | nil => cases hHeight
      | cons innerOpen opens =>
          rcases hNest.uncons with
            ⟨closes, innerClose, rfl, hInnerOpen,
              hInnerClose, hInner⟩
          rw [List.length_cons, Nat.succ_inj] at hHeight
          rcases exists_collapse?_pair seen rest hOpener hOpening
              hInnerOpen hInner.runs hInnerClose hClosing
              hSurplus hLast (by simpa using hBody) with
            ⟨next, lines, hNext, hTrim, hCollapse⟩
          rcases hInner.exists_of_trimLeft hTrim with
            ⟨opens', core', closes', rfl, hRest, hLength,
              hCore⟩
          rcases ih hRest (hLength.trans hHeight)
              (by simpa using hNext) with
            ⟨final, kept, hFinal, hKept, hSettle⟩
          refine ⟨final, kept, hFinal, hKept.trans hCore, ?_⟩
          rw [settle_of_collapse hCollapse, hSettle]
          rfl

end Repair

end NotifyScope
