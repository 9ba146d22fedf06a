import NotifyScope.Proofs.Method.Canonical
import NotifyScope.Proofs.Rule.Standard
import NotifyScope.Proofs.Wrapper.Stack

/-
  A repair of a tower: a method whose body holds a core in a
  number of wrappers, with closing lines left over below.  It
  leaves a single wrapper around the core and drops all that
  was left over, whatever the height of the tower and however
  many closing lines there were, and the method then ends on
  the line below.

  Key definitions include:
    * `Wrapper.Tower`
    * `Rule.plain`

  Main declarations:
    * `Repair.settle_surplus`
    * `Repair.settle_tower`
    * `Method.repair_tower`
-/

------------------------------------------------------------
-- Towers
------------------------------------------------------------

namespace NotifyScope

namespace Wrapper

/-
  A core in a number of wrappers, with closing lines left
  over below.  If there are any, the outermost wrapper is
  closed with an annotation.
-/
structure Tower
    (rule : Rule)
    (opens core closes surplus : Lines) : Prop
    extends Nest rule opens core closes where
  wrapped : opens ≠ []
  bare : ¬IsWhole rule core
  leftOver : ∀ line ∈ surplus, rule.closesEither line = true
  annotated : surplus ≠ [] →
    ∀ line ∈ closes.getLast?,
      rule.closesAnnotated line = true

end Wrapper

------------------------------------------------------------
-- Closing Lines Left Over
------------------------------------------------------------

namespace Repair

open Lines

variable {rule : Rule}
variable (seen rest : Lines)
variable {decl : Line}
variable (last : Line)

/- The first closing line below an annotated one is dropped. -/
theorem dropSurplus?_seen_cons
    (below : Lines)
    (hOpener : (Method.opener? rule decl).isSome = true)
    {inner gap : Lines}
    {closing first : Line}
    (hInner : Runs 0 (inner ++ [closing]) 0)
    (hClosing : rule.closesAnnotated closing = true)
    (hGap : filled gap = [])
    (hFirst : rule.closesEither first = true) :
    dropSurplus? rule seen.length
        (seen ++ decl :: (inner ++ closing :: (gap ++
          first :: below))) =
      some (seen ++ decl :: (inner ++ closing :: (gap ++
        below))) := by
  have hRuns : Runs 0 (inner ++ closing :: gap) 0 := by
    have hAll :=
      hInner.append (.of_filled_eq_nil (by decide) hGap)
    simpa using hAll
  have hEither := Rule.closesEither_of_closesAnnotated hClosing
  have hClose := Block.close?_of_runs seen decl below hRuns
    (Rule.braceBalance_of_closesEither hFirst)
  have hLast := lastFilled?_seen_cons seen decl inner
    (first :: below) (Rule.allBlank_of_closesEither hEither)
    hGap
  have hAtLast := Method.get_seen_cons
    (seen ++ decl :: inner) closing (gap ++ first :: below)
  have hAtStop := Method.get_seen_cons
    (seen ++ decl :: (inner ++ closing :: gap)) first below
  have hErased := eraseIdx_length_append
    (seen ++ decl :: (inner ++ closing :: gap)) first below
  simp only [List.append_assoc, List.cons_append]
    at hClose hAtLast hAtStop hErased
  have hSpans : Method.Spans rule
      (seen ++ decl :: (inner ++ closing :: (gap ++
        first :: below))) seen.length
      (seen ++ decl :: (inner ++ closing :: gap)).length := by
    refine ⟨hClose, ?_⟩
    rw [Method.get_seen_cons]
    exact hOpener
  rw [dropSurplus?_eq_some_iff]
  refine ⟨_, _, hClose, hLast, ?_, hErased.symm⟩
  rw [Wrapper.surplusClose?_eq hSpans hLast, hAtLast, hAtStop,
    if_pos ⟨hEither, hFirst, .inl hClosing⟩]

/-
  The closing lines that are left over below a wrapper are
  dropped one by one, from the top down.
-/
theorem settle_surplus
    (hOpener : (Method.opener? rule decl).isSome = true)
    {surplus gap core : Lines}
    {opening closing : Line}
    (hGap : filled gap = [])
    (hOpening : rule.opensWrapper opening = true)
    (hCore : Runs 0 core 0)
    (hBare : ¬Wrapper.IsWhole rule core)
    (hClosing : rule.closesEither closing = true)
    (hAnnotated : surplus ≠ [] →
      rule.closesAnnotated closing = true)
    (hSurplus : ∀ line ∈ surplus,
      rule.closesEither line = true)
    {below : Lines}
    (hBelow : filled below = surplus) :
    ∃ final,
      filled final = [] ∧
        settle rule seen.length
            (seen ++ decl :: (gap ++ opening :: (core ++
              closing :: (below ++ last :: rest)))) =
          ((settle rule seen.length
              (seen ++ decl :: (gap ++ opening :: (core ++
                closing :: (final ++ last :: rest))))).1,
            { (settle rule seen.length
                (seen ++ decl :: (gap ++ opening :: (core ++
                  closing :: (final ++
                    last :: rest))))).2 with
              dropped :=
                (settle rule seen.length
                  (seen ++ decl :: (gap ++ opening :: (core ++
                    closing :: (final ++
                      last :: rest))))).2.dropped +
                  surplus.length }) := by
  induction surplus generalizing below with
  | nil => exact ⟨below, hBelow, rfl⟩
  | cons first surplus ih =>
      rcases exists_of_filled_eq_cons hBelow with
        ⟨gapFirst, after, rfl, hGapFirst, hAfter⟩
      have hWrapper : Runs 0
          (gap ++ opening :: (core ++ [closing])) 0 :=
        (Runs.of_filled_eq_nil (by decide) hGap).append
          (.wrapper hOpening hCore hClosing)
      have hInner : Runs 0
          ((gap ++ opening :: core) ++ [closing]) 0 := by
        simpa using hWrapper
      have hCollapse := collapse?_single_eq_none seen decl
        (gapFirst ++ first :: (after ++ last :: rest)) hGap
        hOpening hCore hBare hClosing
      have hDrop := dropSurplus?_seen_cons seen
        (after ++ last :: rest) hOpener hInner
        (hAnnotated (by simp)) hGapFirst
        (hSurplus first List.mem_cons_self)
      have hRest : filled (gapFirst ++ after) = surplus := by
        rw [filled_append, hGapFirst, hAfter]
        rfl
      rcases ih (fun _ => hAnnotated (by simp))
          (fun line hLine => hSurplus line
            (List.mem_cons_of_mem first hLine)) hRest with
        ⟨final, hFinal, hSettle⟩
      refine ⟨final, hFinal, ?_⟩
      simp only [List.append_assoc, List.cons_append]
        at hDrop hSettle ⊢
      rw [settle_of_dropSurplus hCollapse hDrop, hSettle]
      rfl

end Repair

------------------------------------------------------------
-- Single Wrappers
------------------------------------------------------------

namespace Method

open Lines

variable {rule : Rule}
variable (seen rest : Lines)
variable {gap core final : Lines}
variable {decl opening closing last : Line}

/-
  A method whose filled lines are one wrapper around a core
  ends on the line below.
-/
theorem spans_single
    (hOpener : (opener? rule decl).isSome = true)
    (hGap : filled gap = [])
    (hOpening : rule.opensWrapper opening = true)
    (hCore : Runs 0 core 0)
    (hClosing : rule.closesEither closing = true)
    (hFinal : filled final = [])
    (hLast : Line.braceBalance last = -1) :
    Spans rule
      (seen ++ decl :: (gap ++ opening :: (core ++ closing ::
        (final ++ last :: rest))))
      seen.length
      (seen ++ decl :: (gap ++ opening :: (core ++ closing ::
        final))).length := by
  have hWrapper : Runs 0
      (gap ++ opening :: (core ++ closing :: final)) 0 := by
    have hAll :=
      ((Runs.of_filled_eq_nil (by decide) hGap).append
        (.wrapper hOpening hCore hClosing)).append
          (.of_filled_eq_nil (by decide) hFinal)
    simpa using hAll
  have hSpans :=
    spans_of_runs seen rest hOpener hWrapper hLast
  simpa only [List.append_assoc, List.cons_append]
    using hSpans

theorem wrapped_single
    (hGap : filled gap = [])
    (hOpening : rule.opensWrapper opening = true)
    (hCore : Runs 0 core 0)
    (hClosing : rule.closesEither closing = true)
    (hFinal : filled final = []) :
    Wrapped rule
      (seen ++ decl :: (gap ++ opening :: (core ++ closing ::
        (final ++ last :: rest))))
      seen.length
      (seen ++ decl :: (gap ++ opening :: (core ++ closing ::
        final))).length
      (seen ++ decl :: gap).length
      (seen ++ decl :: (gap ++ opening :: core)).length := by
  have hFirst := nextFilled?_seen_cons seen decl
    (core ++ closing :: (final ++ last :: rest)) hGap
    (Rule.allBlank_of_opensWrapper hOpening)
  have hEnd := lastFilled?_seen_cons seen decl
    (gap ++ opening :: core) (last :: rest)
    (Rule.allBlank_of_closesEither hClosing) hFinal
  have hAt := get_seen_cons (seen ++ decl :: gap) opening
    (core ++ closing :: (final ++ last :: rest))
  have hClose := Block.close?_of_runs (seen ++ decl :: gap)
    opening (final ++ last :: rest) hCore
    (Rule.braceBalance_of_closesEither hClosing)
  simp only [List.append_assoc, List.cons_append]
    at hEnd hAt hClose
  refine ⟨hFirst, hEnd, ?_, hClose⟩
  rw [hAt]
  exact hOpening

/- Nothing is dropped above a line of another kind. -/
theorem dropSurplus?_single_eq_none
    (hOpener : (opener? rule decl).isSome = true)
    (hGap : filled gap = [])
    (hOpening : rule.opensWrapper opening = true)
    (hCore : Runs 0 core 0)
    (hClosing : rule.closesEither closing = true)
    (hFinal : filled final = [])
    (hLast : Line.braceBalance last = -1)
    (hOther : rule.closesEither last = false) :
    Repair.dropSurplus? rule seen.length
        (seen ++ decl :: (gap ++ opening :: (core ++
          closing :: (final ++ last :: rest)))) = none := by
  have hSpans := spans_single seen rest hOpener hGap hOpening
    hCore hClosing hFinal hLast
  have hAt := get_seen_cons
    (seen ++ decl :: (gap ++ opening :: (core ++ closing ::
      final))) last rest
  simp only [List.append_assoc, List.cons_append] at hAt
  rw [← Option.not_isSome_iff_eq_none,
    Repair.dropSurplus?_isSome_iff hSpans]
  rintro ⟨_, _, _, hStop, _⟩
  rw [hAt, hOther] at hStop
  cases hStop

end Method

namespace Repair

open Lines

variable {rule : Rule}
variable (seen rest : Lines)
variable {decl last : Line}

/-
  What is left of a tower: one wrapper, around what the core
  is up to white space in front.
-/
theorem settle_tower
    (hOpener : (Method.opener? rule decl).isSome = true)
    {body opens core closes surplus : Lines}
    (hBody : filled body =
      opens ++ filled core ++ closes ++ surplus)
    (hTower : Wrapper.Tower rule opens core closes surplus)
    (hLast : Line.braceBalance last = -1)
    (hOther : rule.closesEither last = false) :
    ∃ gap opening kept closing final,
      filled gap = [] ∧
        rule.opensWrapper opening = true ∧
        Runs 0 kept 0 ∧
        ¬Wrapper.IsWhole rule kept ∧
        rule.closesEither closing = true ∧
        filled final = [] ∧
        (filled kept).map Text.trimLeft =
          (filled core).map Text.trimLeft ∧
        settle rule seen.length
            (seen ++ decl :: (body ++ last :: rest)) =
          (seen ++ decl :: (gap ++ opening :: (kept ++
              closing :: (final ++ last :: rest))),
            { collapsed := opens.length - 1
              dropped := surplus.length }) := by
  cases opens with
  | nil => exact absurd rfl hTower.wrapped
  | cons opening opens =>
      rcases hTower.toNest.uncons with
        ⟨closes, closing, rfl, hOpening, hClosing, hInner⟩
      rcases settle_nest seen rest hOpener hOpening hClosing
          hTower.leftOver hLast hInner.filled rfl
          (by simpa using hBody) with
        ⟨single, _, hSingle, hTrim, hNest⟩
      rcases exists_of_filled_eq_cons hSingle with
        ⟨gap, _, rfl, hGap, hInside⟩
      rcases exists_of_filled_eq_append hInside with
        ⟨before, _, rfl, rfl, hEnd⟩
      rcases exists_of_filled_eq_cons hEnd with
        ⟨gapEnd, below, rfl, hGapEnd, hBelow⟩
      have hKept :
          (filled (before ++ gapEnd)).map Text.trimLeft =
            (filled core).map Text.trimLeft := by
        rw [filled_append, hGapEnd, List.append_nil]
        exact hTrim
      have hRuns : Runs 0 (before ++ gapEnd) 0 := by
        rw [← Runs.filled_iff]
        exact Runs.congr_trimLeft hKept.symm
          (Runs.filled_iff.mpr hTower.even)
      have hBare : ¬Wrapper.IsWhole rule (before ++ gapEnd) :=
        fun hWhole =>
          hTower.bare (hWhole.of_trimLeft hKept)
      rcases settle_surplus seen rest last hOpener hGap
          hOpening hRuns hBare hClosing
          (fun hSurplus => hTower.annotated hSurplus closing
            (by simp)) hTower.leftOver hBelow with
        ⟨final, hFinal, hSurplus⟩
      refine ⟨gap, opening, before ++ gapEnd, closing, final,
        hGap, hOpening, hRuns, hBare, hClosing, hFinal, hKept,
        ?_⟩
      have hDone := settle_of_none
        (collapse?_single_eq_none seen decl
          (final ++ last :: rest) hGap hOpening hRuns hBare
          hClosing)
        (Method.dropSurplus?_single_eq_none seen rest hOpener
          hGap hOpening hRuns hClosing hFinal hLast hOther)
      rw [hDone] at hSurplus
      simp only [List.append_assoc, List.cons_append]
        at hNest hSurplus hDone ⊢
      rw [hNest, hSurplus]
      simp

end Repair

------------------------------------------------------------
-- Annotations
------------------------------------------------------------

namespace Rule

variable (rule : Rule)

/- A line without the annotation of a closing line. -/
def plain
    (line : Line) : Line :=
  if rule.closesAnnotated line then
    Text.leading line ++ rule.wrapClose
  else
    line

theorem trimLeft_wrapClose :
    Text.trimLeft rule.wrapClose = rule.wrapClose := by
  cases hClose : rule.wrapClose with
  | nil => rfl
  | cons c rest =>
      have hHead : c ∈ (Text.trim rule.wrapClose).head? := by
        rw [rule.wrapClose_trim, hClose]
        rfl
      exact Text.trimLeft_cons
        (Text.isBlank_of_mem_head?_trim hHead)

theorem trimLeft_plain
    (line : Line) :
    Text.trimLeft (rule.plain line) =
      if rule.closesAnnotated line then
        rule.wrapClose
      else
        Text.trimLeft line := by
  unfold plain
  split
  · rw [Text.trimLeft_append_left _ (Text.allBlank_leading _),
      rule.trimLeft_wrapClose]
  · rfl

theorem allBlank_plain
    (line : Line) :
    Text.allBlank (rule.plain line) = Text.allBlank line := by
  unfold plain
  split
  · rename_i hAnnotated
    rw [allBlank_of_closesEither
        (closesEither_of_closesAnnotated hAnnotated),
      allBlank_of_closesEither
        (closesEither_of_closesWrapper
          (closesWrapper_append (Text.allBlank_leading line)))]
  · rfl

/- An opening line has none. -/
theorem plain_of_opensWrapper
    {rule : Rule}
    {line : Line}
    (hOpens : rule.opensWrapper line = true) :
    rule.plain line = line := by
  unfold plain
  rw [if_neg]
  intro hAnnotated
  have hBalance := braceBalance_of_closesEither
    (closesEither_of_closesAnnotated hAnnotated)
  rw [braceBalance_of_opensWrapper hOpens] at hBalance
  cases hBalance

theorem closesWrapper_plain
    {rule : Rule}
    {line : Line}
    (hCloses : rule.closesEither line = true) :
    rule.closesWrapper (rule.plain line) = true := by
  unfold plain
  split
  · exact closesWrapper_append (Text.allBlank_leading line)
  · rename_i hNot
    rw [closesWrapper_eq, hCloses, Bool.not_eq_true _ |>.mp hNot]
    rfl

/- What a line is then follows from what it is once trimmed. -/
theorem map_trimLeft_plain
    {left right : Lines}
    (hTrim :
      left.map Text.trimLeft = right.map Text.trimLeft) :
    (left.map rule.plain).map Text.trimLeft =
      right.map fun line =>
        if rule.closesAnnotated line then
          rule.wrapClose
        else
          Text.trimLeft line := by
  let settled : Text → Text := fun text =>
    if rule.closesAnnotated text then rule.wrapClose else text
  have hSettled : ∀ line : Line,
      settled (Text.trimLeft line) =
        if rule.closesAnnotated line then
          rule.wrapClose
        else
          Text.trimLeft line := by
    intro line
    have hLine : Text.trim (Text.trimLeft line) =
        Text.trim line :=
      congrArg Text.trimRight (Text.trimLeft_trimLeft line)
    simp only [settled, closesAnnotated_congr hLine]
  calc (left.map rule.plain).map Text.trimLeft
      = (left.map Text.trimLeft).map settled := by
        rw [List.map_map, List.map_map]
        congr 1
        funext line
        rw [Function.comp_apply, Function.comp_apply,
          hSettled, trimLeft_plain]
    _ = (right.map Text.trimLeft).map settled := by rw [hTrim]
    _ = right.map _ := by
        rw [List.map_map]
        congr 1
        funext line
        rw [Function.comp_apply, hSettled]

end Rule

namespace Repair

/- The lines of a body that annotations are taken off. -/
theorem normalize_seen_cons
    (rule : Rule)
    (seen : Lines)
    (decl : Line)
    (body rest : Lines)
    (hClose :
      Block.close? (seen ++ decl :: (body ++ rest))
          seen.length = some (seen ++ decl :: body).length) :
    (normalize rule seen.length
        (seen ++ decl :: (body ++ rest))).1 =
      seen ++ decl :: (body.map rule.plain ++ rest) := by
  have hSplit :
      ∀ own : Lines,
        seen ++ decl :: (own ++ rest) =
          (seen ++ [decl]) ++ (own ++ rest) := by
    intro own
    rw [List.append_assoc, List.singleton_append]
  unfold normalize
  rw [hClose]
  simp only [Bool.and_eq_true, decide_eq_true_eq]
  rw [hSplit, hSplit, Lines.mapIdx_context]
  · congr 2
    apply List.ext_getElem (by simp)
    intro i hi _
    rw [List.length_mapIdx] at hi
    rw [List.getElem_mapIdx, List.getElem_map, Rule.plain]
    simp only [List.length_append, List.length_cons,
      List.length_nil]
    rw [if_congr (and_iff_right ⟨by omega, by omega⟩) rfl rfl]
  · intro i line hi
    simp only [List.length_append, List.length_cons,
      List.length_nil] at hi ⊢
    rw [if_neg (by omega)]

end Repair

------------------------------------------------------------
-- Repairs of Towers
------------------------------------------------------------

namespace Method

open Lines

section Single

variable {rule : Rule}
variable (seen rest : Lines)
variable {gap kept final : Lines}
variable {decl opening closing last : Line}
variable (hOpener : (opener? rule decl).isSome = true)
variable (hGap : filled gap = [])
variable (hOpening : rule.opensWrapper opening = true)
variable (hRuns : Runs 0 kept 0)
variable (hBare : ¬Wrapper.IsWhole rule kept)
variable (hClosing : rule.closesEither closing = true)
variable (hFinal : filled final = [])
variable (hLast : Line.braceBalance last = -1)
variable (hOther : rule.closesEither last = false)

include hGap hOpening hClosing hFinal in
/- The filled lines of one wrapper without annotations. -/
theorem filled_map_plain :
    filled ((gap ++ opening :: (kept ++
        closing :: final)).map rule.plain) =
      opening :: ((filled kept).map rule.plain ++
        [rule.plain closing]) := by
  rw [filled_map _ rule.allBlank_plain]
  simp only [filled_append, hGap, hFinal, List.nil_append,
    filled_cons_of_filled _
      (Rule.allBlank_of_opensWrapper hOpening),
    filled_cons_of_filled _
      (Rule.allBlank_of_closesEither hClosing),
    List.map_cons, List.map_append, List.map_nil,
    Rule.plain_of_opensWrapper hOpening]

include hOpener hGap hOpening hRuns hClosing hFinal hLast
/- Annotations are taken off all lines of one wrapper. -/
theorem normalize_single :
    (Repair.normalize rule seen.length
        (seen ++ decl :: (gap ++ opening :: (kept ++
          closing :: (final ++ last :: rest))))).1 =
      seen ++ decl :: ((gap ++ opening :: (kept ++
        closing :: final)).map rule.plain ++ last :: rest) := by
  have hSpans := spans_single seen rest hOpener hGap hOpening
    hRuns hClosing hFinal hLast
  have hNormal := Repair.normalize_seen_cons rule seen decl
    (gap ++ opening :: (kept ++ closing :: final))
    (last :: rest) (by simpa using hSpans.closes)
  simpa only [List.append_assoc, List.cons_append]
    using hNormal

include hBare hOther
/- One wrapper without annotations is canonical. -/
theorem canonical_single :
    Canonical rule
      (seen ++ decl :: ((gap ++ opening :: (kept ++
        closing :: final)).map rule.plain ++ last :: rest))
      seen.length
      (seen ++ decl :: (gap ++ opening :: (kept ++
        closing :: final)).map rule.plain).length := by
  have hAt := get_seen_cons
    (seen ++ decl :: (gap ++ opening :: kept)) closing
    (final ++ last :: rest)
  simp only [List.append_assoc, List.cons_append] at hAt
  have hCanonical := canonical_normalize
    (spans_single seen rest hOpener hGap hOpening hRuns
      hClosing hFinal hLast)
    (Repair.collapse?_single_eq_none seen decl
      (final ++ last :: rest) hGap hOpening hRuns hBare
      hClosing)
    (dropSurplus?_single_eq_none seen rest hOpener hGap
      hOpening hRuns hClosing hFinal hLast hOther)
    (wrapped_single seen rest hGap hOpening hRuns hClosing
      hFinal)
    (by rw [hAt]; exact hClosing)
  rw [normalize_single seen rest hOpener hGap hOpening hRuns
    hClosing hFinal hLast] at hCanonical
  simpa using hCanonical

end Single

/- The method that the search describes for a canonical one. -/
theorem exists_located_of_canonical
    {rule : Rule}
    (fallback : Text)
    {seen own rest : Lines}
    {decl last : Line}
    {name : Text}
    (hName : opener? rule decl = some name)
    (hCanonical :
      Canonical rule (seen ++ decl :: (own ++ last :: rest))
        seen.length (seen ++ decl :: own).length) :
    let lines := seen ++ decl :: (own ++ last :: rest)
    ∃ method,
      Located rule fallback lines method ∧
        method.start = seen.length ∧
        lines.drop method.stop = last :: rest ∧
        method.bodyState rule lines = .canonical ∧
        method.interior lines = own := by
  intro lines
  have hClose := hCanonical.spans.closes
  rw [close?_seen_cons, Option.map_eq_some_iff] at hClose
  rcases hClose with ⟨k, hWalk, hStop⟩
  have hLength : k = own.length := by
    simp only [List.length_append, List.length_cons] at hStop
    omega
  rw [hLength] at hWalk
  have hStopAt :
      seen.length + 1 + own.length =
        (seen ++ decl :: own).length := by
    simp only [List.length_append, List.length_cons]
    omega
  have hSplit :
      lines = (seen ++ decl :: own) ++ last :: rest := by
    simp [lines]
  refine ⟨_, located_declaredAt fallback seen _ hName hWalk,
    rfl, ?_, ?_, ?_⟩
  · change lines.drop (seen.length + 1 + own.length) = _
    rw [hStopAt, hSplit, List.drop_left]
  · apply bodyState_eq_canonical
    change Canonical rule lines seen.length
      (seen.length + 1 + own.length)
    rw [hStopAt]
    exact hCanonical
  · change (lines.drop (seen.length + 1)).take
      (seen.length + 1 + own.length - seen.length - 1) = own
    rw [drop_seen_cons,
      show seen.length + 1 + own.length - seen.length - 1 =
        own.length by omega, List.take_left]

/-
  A repair leaves one wrapper of a tower of any height, and
  none of the closing lines left over below it.  The method
  that the search then describes on the declaration line ends
  on the line below the tower and is canonical.  Of the core
  all filled lines are left, in their order: they only lose
  white space in front and the annotations of closing lines.
-/
theorem repair_tower
    {rule : Rule}
    {fallback : Text}
    {lines : Lines}
    {method : Method}
    {body opens core closes surplus rest : Lines}
    {last : Line}
    (hMethod : .ok method ∈ locate rule fallback lines)
    (hLines :
      lines.drop (method.start + 1) = body ++ last :: rest)
    (hBody :
      filled body = opens ++ filled core ++ closes ++ surplus)
    (hTower : Wrapper.Tower rule opens core closes surplus)
    (hLast : Line.braceBalance last = -1)
    (hOther : rule.closesEither last = false) :
    let repaired := method.repair rule lines
    repaired.2.collapsed = opens.length - 1 ∧
      repaired.2.dropped = surplus.length ∧
      ∃ again,
        Located rule fallback repaired.1 again ∧
          again.start = method.start ∧
          repaired.1.drop again.stop = last :: rest ∧
          again.bodyState rule repaired.1 = .canonical ∧
          ∃ opening kept closing,
            filled (again.interior repaired.1) =
                opening :: (kept ++ [closing]) ∧
              rule.opensWrapper opening = true ∧
              rule.closesWrapper closing = true ∧
              kept.map Text.trimLeft =
                (filled core).map fun line =>
                  if rule.closesAnnotated line then
                    rule.wrapClose
                  else
                    Text.trimLeft line := by
  intro repaired
  have hLocated :=
    (of_mem_scan [] lines hMethod).2.2.1 method rfl
  rw [List.nil_append] at hLocated
  have hSpans := Spans.of_located hLocated
  have hLess :=
    hSpans.lt.trans (lt_length_of_filled hSpans.filled_stop)
  rcases exists_eq_append_cons hLess with
    ⟨seen, decl, _, rfl, hSeen⟩
  rw [← hSeen, drop_seen_cons] at hLines
  subst hLines
  have hName := hLocated.name
  have hOpener := hSpans.opener
  rw [← hSeen, get_seen_cons] at hName hOpener
  rcases Repair.settle_tower seen rest hOpener hBody hTower
      hLast hOther with
    ⟨gap, opening, kept, closing, final, hGap, hOpening,
      hRuns, hBare, hClosing, hFinal, hKept, hSettle⟩
  have hReport :
      repaired.2.collapsed = opens.length - 1 ∧
        repaired.2.dropped = surplus.length := by
    unfold repaired repair
    rw [← hSeen, hSettle]
    exact ⟨rfl, rfl⟩
  have hAfter :
      repaired.1 =
        seen ++ decl :: ((gap ++ opening :: (kept ++
          closing :: final)).map rule.plain ++
            last :: rest) := by
    rw [← normalize_single seen rest hOpener hGap hOpening
      hRuns hClosing hFinal hLast]
    unfold repaired repair
    rw [← hSeen, hSettle]
  have hCanonical := canonical_single seen rest hOpener hGap
    hOpening hRuns hBare hClosing hFinal hLast hOther
  rw [hReport.1, hReport.2, hAfter]
  rcases exists_located_of_canonical fallback hName hCanonical
    with ⟨again, hAgain, hStart, hDrop, hState, hInterior⟩
  refine ⟨rfl, rfl, again, hAgain, hStart.trans hSeen, hDrop,
    hState, opening, _, _, ?_, hOpening,
    Rule.closesWrapper_plain hClosing,
    rule.map_trimLeft_plain hKept⟩
  rw [hInterior]
  exact filled_map_plain hGap hOpening hClosing hFinal

/- Two wrappers, one closing line left over, a blank line. -/
theorem repair_tower_twice :
    let lines : Lines :=
      ["class Quiz \x7b".toList,
        "  void _generateQuestion() \x7b".toList,
        "    setState(() \x7b".toList,
        "      setState(() \x7b".toList,
        "        if (x) \x7b".toList,
        "        \x7d".toList,
        "".toList,
        "      \x7d);".toList,
        "    \x7d); // setState".toList,
        "    \x7d);".toList,
        "  \x7d".toList,
        "\x7d".toList]
    let method : Method :=
      { name := "_generateQuestion".toList
        start := 1
        stop := 9
        indent := "  ".toList
        unit := "  ".toList }
    let repaired := method.repair Rule.standard lines
    .ok method ∈ locate Rule.standard "  ".toList lines ∧
      repaired.2.collapsed = 1 ∧
      repaired.2.dropped = 1 ∧
      ∃ again,
        Located Rule.standard "  ".toList repaired.1 again ∧
          again.bodyState Rule.standard repaired.1 =
            .canonical := by
  intro lines method repaired
  let core : Lines :=
    ["        if (x) \x7b".toList, "        \x7d".toList]
  have hCore : filled core = core := by
    decide +kernel
  have hMethod : .ok method ∈
      locate Rule.standard "  ".toList lines := by
    decide +kernel
  have hEven : Runs 0 core 0 := by
    have hUp : Line.braceBalance
        "        if (x) \x7b".toList = 1 := by
      decide +kernel
    have hDown : Line.braceBalance
        "        \x7d".toList = -1 := by
      decide +kernel
    apply Runs.cons (by decide)
    rw [hUp]
    apply Runs.cons (by decide)
    rw [hDown]
    exact .nil (by decide)
  have hBare : ¬Wrapper.IsWhole Rule.standard core := by
    rintro ⟨opening, inner, closing, hFilled, hOpens, _⟩
    rw [hCore] at hFilled
    rw [← (List.cons.inj hFilled).1] at hOpens
    exact absurd hOpens (by decide +kernel)
  have hTower : Wrapper.Tower Rule.standard
      ["    setState(() \x7b".toList,
        "      setState(() \x7b".toList] core
      ["      \x7d);".toList, "    \x7d); // setState".toList]
      ["    \x7d);".toList] :=
    { opening := by decide +kernel
      even := hEven
      closing := by decide +kernel
      height := by simp
      wrapped := List.cons_ne_nil _ _
      bare := hBare
      leftOver := by decide +kernel
      annotated := fun _ => by decide +kernel }
  have hBody :
      filled ((lines.drop 2).take 8) =
        ["    setState(() \x7b".toList,
          "      setState(() \x7b".toList] ++ filled core ++
        ["      \x7d);".toList,
          "    \x7d); // setState".toList] ++
        ["    \x7d);".toList] := by
    decide +kernel
  have hLines :
      lines.drop (method.start + 1) =
        (lines.drop 2).take 8 ++ "  \x7d".toList ::
          ["\x7d".toList] := by
    decide +kernel
  have hRepaired :=
    repair_tower hMethod hLines hBody hTower
      (by decide +kernel) (by decide +kernel)
  rcases hRepaired with
    ⟨hCollapsed, hDropped, again, hAgain, _, _, hState, _⟩
  exact ⟨hMethod, hCollapsed, hDropped, again, hAgain, hState⟩

end Method

end NotifyScope
