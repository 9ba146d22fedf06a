import NotifyScope.Proofs.Method.Canonical
import NotifyScope.Proofs.Rewrite.Settled

/-
  One pass is enough for methods in order.  With a plain rule
  and methods that are neither doubled nor closed in an odd
  way, what one rewrite leaves is found again, method by
  method, and settled, so that a second one does nothing.

  Key definitions include:
    * `Method.Ready`
    * `Method.Pending`

  Main declarations:
    * `Method.scan_finished`
    * `Method.scan_assemble`
    * `Rule.apply_converges`
-/

------------------------------------------------------------
-- The Search in Pieces
------------------------------------------------------------

namespace NotifyScope

namespace Method

variable {rule : Rule}

/- The search passes lines that declare nothing. -/
theorem scan_append_of_none
    (fallback : Text)
    (i : Nat)
    (body : Option (Nat × Nat))
    (gap rest : Lines)
    (hGap : ∀ line ∈ gap, opener? rule line = none) :
    scan rule fallback i body (gap ++ rest) =
      scan rule fallback (i + gap.length) body rest := by
  induction gap generalizing i with
  | nil => rfl
  | cons line gap ih =>
      rw [List.cons_append,
        scan_cons_of_none fallback i body _
          (hGap line List.mem_cons_self),
        ih (i + 1) fun other hOther =>
          hGap other (List.mem_cons_of_mem _ hOther),
        List.length_cons, Nat.add_assoc, Nat.add_comm 1]

/-
  The search finds a finished method and goes on behind it:
  what it remembers of earlier bodies is behind it already.
-/
theorem scan_finished
    (fallback : Text)
    {own : Lines}
    {name : Text}
    (i : Nat)
    (body : Option (Nat × Nat))
    (rest : Lines)
    (hFinished : Finished rule own)
    (hName : opener? rule (Lines.get own 0) = some name)
    (hBody : ∀ start stop, body = some (start, stop) →
      stop < i) :
    ∃ method : Method,
      method.name = name ∧
        method.start = i ∧
        method.stop = i + (own.length - 1) ∧
        scan rule fallback i body (own ++ rest) =
          .ok method ::
            scan rule fallback (i + own.length)
              (some (i, i + (own.length - 1))) rest := by
  have hWhole : Whole rule own := hFinished.canonical.spans
  have hLength := hWhole.length
  have hClose := (hWhole.spans_context [] rest).closes
  cases own with
  | nil => simp at hLength
  | cons decl tail =>
      have hOutside : enclosing? i body = none := by
        unfold enclosing?
        split
        · rfl
        · rename_i start stop
          have := hBody start stop rfl
          rw [if_neg (by omega)]
      simp only [List.length_cons] at hLength
      rw [Lines.get_cons_zero] at hName
      have hOffset :
          Block.closeOffset? 1 (tail ++ rest) =
            some (tail.length - 1) := by
        unfold Block.close? at hClose
        simp only [List.nil_append, List.length_nil,
          Nat.zero_add, List.cons_append, List.drop_one,
          List.tail_cons, List.length_cons,
          Nat.add_sub_cancel, Option.map_eq_some_iff]
          at hClose
        rcases hClose with ⟨k, hWalk, hk⟩
        rw [hWalk]
        congr 1
        omega
      have hTail : ∀ line ∈ tail,
          opener? rule line = none := by
        intro line hLine
        rcases List.mem_iff_getElem.mp hLine with
          ⟨k, hk, rfl⟩
        have hInside :=
          hFinished.inside (k + 1) (Nat.succ_pos k)
        rw [Lines.get_cons_succ,
          Lines.get_eq_getElem hk] at hInside
        exact hInside
      refine ⟨declaredAt fallback i name decl (tail ++ rest)
        (tail.length - 1), rfl, rfl, ?_, ?_⟩
      · simp only [declaredAt, List.length_cons]
        omega
      · rw [List.cons_append,
          scan_cons_of_close fallback hName hOutside hOffset,
          scan_append_of_none fallback _ _ tail rest hTail]
        simp only [List.length_cons]
        congr 2
        · omega
        · congr 2
          omega

------------------------------------------------------------
-- Methods in Order
------------------------------------------------------------

/-
  A method that is not doubled, closes with one brace and no
  annotation, and has no declaration in its body.
-/
structure Ready
    (rule : Rule)
    (lines : Lines)
    (method : Method) : Prop where
  spans : Spans rule lines method.start method.stop
  indent : Text.allBlank method.indent = true
  unit : Text.allBlank method.unit = true
  state : method.bodyState rule lines ≠ .doubled
  balance :
    Line.braceBalance (Lines.get lines method.stop) = -1
  plain :
    rule.closesAnnotated (Lines.get lines method.stop) =
      false
  inside : ∀ i, method.start < i → i ≤ method.stop →
    opener? rule (Lines.get lines i) = none

variable {lines : Lines}
variable {method : Method}

/- The lines of a method in order, once it is rewritten. -/
theorem Ready.finished_mended
    (hPlain : rule.Plain)
    (reindent : Bool)
    (hReady : Ready rule lines method) :
    let next :=
      (mended rule reindent method (method.own lines)).map
        rule.renamed
    Finished rule next ∧
      opener? rule (Lines.get next 0) =
        some rule.newName ∧
      Lines.get next (next.length - 1) =
        rule.renamed (Lines.get lines method.stop) := by
  have hSpans := hReady.spans
  have hWhole := whole_own hSpans
  have hLength := length_own hSpans
  have hLess := hSpans.lt
  have hLast :
      Lines.get (method.own lines)
          ((method.own lines).length - 1) =
        Lines.get lines method.stop := by
    rw [get_own (by omega)]
    congr 1
    omega
  have hFirst :
      Lines.get (method.own lines) 0 =
        Lines.get lines method.start :=
    get_own (by omega)
  have hState :
      (method.moveTo 0).bodyState rule (method.own lines) ≠
        .doubled := by
    rw [← bodyState_context hWhole
        (lines.take method.start)
        (lines.drop (method.stop + 1))
        (length_take_start hSpans).symm
        (by rw [length_take_start hSpans]; omega),
      take_append_own method lines hLess]
    exact hReady.state
  have hInside : ∀ i, 0 < i →
      opener? rule (Lines.get (method.own lines) i) =
        none := by
    intro i hi
    by_cases hStop : method.start + i ≤ method.stop
    · rw [get_own hStop]
      exact hReady.inside _ (by omega) hStop
    · rw [Lines.get_of_length_le (by omega)]
      apply opener?_of_braceBalance_ne
      decide
  have hStop :
      (method.moveTo 0).stop =
        (method.own lines).length - 1 := by
    unfold moveTo
    simp only
    omega
  rcases finished_rewriteBody hPlain reindent hWhole rfl hStop
      hReady.indent hReady.unit hState
      (by rw [hLast]; exact hReady.balance)
      (by rw [hLast]; exact hReady.plain) hInside with
    ⟨hFinished, hDecl, hEnd⟩
  intro next
  have hNext :
      next =
        ((method.moveTo 0).rewriteBody rule reindent
          (method.own lines)).lines.map rule.renamed :=
    Lines.map_renamed_set rule _ 0
  rw [hNext]
  refine ⟨hFinished.renamed hPlain, ?_, ?_⟩
  · rcases Option.isSome_iff_exists.mp hSpans.opener with
      ⟨name, hName⟩
    rw [Lines.get_map _ rule.renamed_nil, hDecl, hFirst,
      opener?_renamed hPlain.clear, hName, Option.map_some]
  · rw [List.length_map, Lines.get_map _ rule.renamed_nil,
      hEnd, hLast]

------------------------------------------------------------
-- Markers
------------------------------------------------------------

/- Whether lines end in a marker. -/
def endsIn
    (marker : Line)
    (lines : Lines) : Bool :=
  lines.getLast?.any fun line => Text.trim line == marker

/- The marker above a method is the last line above it. -/
theorem hasMarkerAbove_length
    (lines : Lines)
    (marker : Line) :
    Lines.hasMarkerAbove lines lines.length marker =
      endsIn marker lines := by
  unfold Lines.hasMarkerAbove endsIn
  rcases List.eq_nil_or_concat' lines with
    rfl | ⟨front, last, rfl⟩
  · rfl
  · rw [List.length_append, List.length_singleton,
      List.getLast?_append_of_ne_nil _ (by simp),
      List.getLast?_singleton, Option.any_some]
    simp only
    rw [Lines.get_length_append, Lines.get_cons_zero]

theorem endsIn_append
    {marker : Line}
    (left : Lines)
    {right : Lines}
    (hNe : right ≠ []) :
    endsIn marker (left ++ right) = endsIn marker right := by
  unfold endsIn
  rw [List.getLast?_append_of_ne_nil _ hNe]

/- The last line of a list by its number. -/
theorem endsIn_eq_get
    (marker : Line)
    {lines : Lines}
    (hLength : 0 < lines.length) :
    endsIn marker lines =
      (Text.trim (Lines.get lines (lines.length - 1)) ==
        marker) := by
  unfold endsIn
  rw [List.getLast?_eq_getElem?,
    List.getElem?_eq_getElem (by omega), Option.any_some,
    Lines.get_eq_getElem (by omega)]

/- Renaming neither makes nor breaks a marker. -/
theorem endsIn_map_renamed
    (hPlain : rule.Plain)
    {marker : Line}
    (hMarker : rule.marker = some marker)
    (lines : Lines) :
    endsIn marker (lines.map rule.renamed) =
      endsIn marker lines := by
  have hUnnamed :=
    hPlain.unnamed _ (Rule.marker_mem_fixedLines hMarker)
  unfold endsIn
  rw [List.getLast?_map]
  cases lines.getLast? with
  | none => rfl
  | some line =>
      simp only [Option.map_some, Option.any_some]
      rw [Bool.eq_iff_iff, beq_iff_eq, beq_iff_eq,
        hUnnamed.trim_renamed_iff]

/- Above a method that is rewritten stands the marker. -/
theorem endsIn_markerLines
    {marker : Line}
    (hMarker : rule.marker = some marker)
    (hIndent : Text.allBlank method.indent = true)
    (above : Lines) :
    endsIn marker
        (above ++ markerLines rule method above) = true := by
  unfold markerLines
  rw [hMarker]
  simp only [hasMarkerAbove_length]
  split
  · rw [List.append_nil]
    assumption
  · rw [endsIn_append above (List.cons_ne_nil _ _)]
    unfold endsIn
    rw [List.getLast?_singleton, Option.any_some,
      Text.trim_append_left marker hIndent,
      (rule.marker_trim marker hMarker).2, beq_iff_eq]

------------------------------------------------------------
-- The Search behind a Rewrite
------------------------------------------------------------

/- Lines without a declaration have none once renamed. -/
theorem opener?_of_mem_map
    (hPlain : rule.Plain)
    {lines : Lines}
    (hLines : ∀ line ∈ lines, opener? rule line = none) :
    ∀ line ∈ lines.map rule.renamed,
      opener? rule line = none := by
  intro line hLine
  rcases List.mem_map.mp hLine with ⟨other, hOther, rfl⟩
  rw [opener?_renamed hPlain.clear, hLines other hOther]
  rfl

/- A marker declares nothing. -/
theorem opener?_markerLines
    (hPlain : rule.Plain)
    (hIndent : Text.allBlank method.indent = true)
    (above : Lines) :
    ∀ line ∈ markerLines rule method above,
      opener? rule line = none := by
  intro line hLine
  unfold markerLines at hLine
  split at hLine
  · cases hLine
  · rename_i marker hMarker
    split at hLine
    · cases hLine
    · rw [List.mem_singleton] at hLine
      subst hLine
      apply opener?_append_left hIndent
      apply opener?_of_declaredName?
      exact hPlain.undeclared _
        (Rule.marker_mem_fixedLines hMarker)

/- A finished method below its marker is settled. -/
theorem settled_of_finished
    {own above : Lines}
    (tail : Lines)
    (hFinished : Finished rule own)
    (hName : method.name = rule.newName)
    (hStart : method.start = above.length)
    (hStop : method.stop = above.length + (own.length - 1))
    (hAbove : ∀ marker ∈ rule.marker,
      endsIn marker above = true) :
    Settled rule (above ++ (own ++ tail)) method := by
  have hWhole : Whole rule own := hFinished.canonical.spans
  have hLength := hWhole.length
  have hWindow := Lines.window_context above own tail rule
  constructor
  · apply bodyState_eq_canonical
    rw [hStart, hStop]
    apply hWindow.canonical ?_ (by omega)
    · exact (hWhole.spans_context above tail).opener
    · rw [Nat.zero_add]
      exact hFinished.canonical
    · intro i hi
      rw [Lines.get_context above own tail hi, Nat.zero_add]
  · exact hName
  · intro marker hMarker
    rw [hStart, hasMarkerAbove_append,
      hasMarkerAbove_length]
    exact hAbove marker hMarker

/- What the lines in front of a method end in. -/
theorem endsIn_gap
    (hPlain : rule.Plain)
    {lines seen gap : Lines}
    {i start : Nat}
    (hGap : lines.take i ++ gap = lines.take start)
    (hIndent : Text.allBlank method.indent = true)
    (hSeen : ∀ marker ∈ rule.marker,
      endsIn marker (lines.take i) = true →
        endsIn marker seen = true) :
    ∀ marker ∈ rule.marker,
      endsIn marker
          (seen ++
            (gap ++
              markerLines rule method
                (lines.take start)).map rule.renamed) =
        true := by
  intro marker hMarker
  have hAbove :=
    endsIn_markerLines hMarker hIndent (lines.take start)
  by_cases hNil :
      gap ++ markerLines rule method (lines.take start) = []
  · rw [List.append_eq_nil_iff] at hNil
    rw [hNil.1, List.append_nil] at hGap
    rw [hNil.2, List.append_nil, ← hGap] at hAbove
    rw [hNil.1, hNil.2, List.append_nil, List.map_nil,
      List.append_nil]
    exact hSeen marker hMarker hAbove
  · rw [endsIn_append _ (by simpa using hNil),
      endsIn_map_renamed hPlain hMarker,
      ← endsIn_append (lines.take i) hNil,
      ← List.append_assoc, hGap]
    exact hAbove

/-
  What holds when the search comes to the lines that stand
  for those from line `i` on: the methods there are in order
  and all the declarations there are, the last body found is
  behind, and so is a marker, if there was one above.
-/
structure Pending
    (rule : Rule)
    (lines : Lines)
    (methods : List Method)
    (i : Nat)
    (seen : Lines)
    (body : Option (Nat × Nat)) : Prop where
  order : methods.Pairwise fun earlier later =>
    earlier.stop < later.start
  ready : ∀ method ∈ methods,
    i ≤ method.start ∧ Ready rule lines method
  openers : ∀ j, i ≤ j →
    (opener? rule (Lines.get lines j)).isSome = true →
      ∃ method ∈ methods, method.start = j
  behind : ∀ start stop, body = some (start, stop) →
    stop < seen.length
  marker : ∀ marker ∈ rule.marker,
    endsIn marker (lines.take i) = true →
      endsIn marker seen = true

section Pending

variable {methods : List Method}
variable {i : Nat}
variable {seen : Lines}
variable {body : Option (Nat × Nat)}

/- In front of the next method nothing is declared. -/
theorem Pending.opener?_gap
    (hPending :
      Pending rule lines (method :: methods) i seen body) :
    ∀ line ∈ (lines.drop i).take (method.start - i),
      opener? rule line = none := by
  intro line hLine
  rcases List.mem_iff_getElem.mp hLine with ⟨k, hk, rfl⟩
  have hLess : k < method.start - i := by
    rw [List.length_take] at hk
    omega
  rw [← Lines.get_eq_getElem hk, Lines.get_take _ hLess,
    Lines.get_drop, ← Option.not_isSome_iff_eq_none]
  intro hSome
  rcases hPending.openers (i + k) (Nat.le_add_right i k)
      hSome with
    ⟨other, hOther, hEq⟩
  rcases List.mem_cons.mp hOther with rfl | hLater
  · omega
  · have hOwn :=
      (hPending.ready method List.mem_cons_self).2.spans.lt
    have hOrder :=
      (List.pairwise_cons.mp hPending.order).1 other hLater
    omega

/- Behind the last method nothing is declared. -/
theorem Pending.opener?_rest
    (hPending : Pending rule lines [] i seen body) :
    ∀ line ∈ lines.drop i, opener? rule line = none := by
  intro line hLine
  rcases List.mem_iff_getElem.mp hLine with ⟨k, hk, rfl⟩
  rw [← Lines.get_eq_getElem hk, Lines.get_drop,
    ← Option.not_isSome_iff_eq_none]
  intro hSome
  rcases hPending.openers (i + k) (Nat.le_add_right i k)
      hSome with
    ⟨method, hMethod, _⟩
  cases hMethod

/- The search goes on behind a method. -/
theorem Pending.next
    (hPending :
      Pending rule lines (method :: methods) i seen body)
    {passed : Lines}
    {start stop : Nat}
    (hBehind : stop < passed.length)
    (hMarker : ∀ marker ∈ rule.marker,
      endsIn marker (lines.take (method.stop + 1)) = true →
        endsIn marker passed = true) :
    Pending rule lines methods (method.stop + 1) passed
      (some (start, stop)) := by
  rcases List.pairwise_cons.mp hPending.order with
    ⟨hFirst, hRest⟩
  rcases hPending.ready method List.mem_cons_self with
    ⟨hStart, hReady⟩
  have hLess := hReady.spans.lt
  constructor
  · exact hRest
  · intro other hOther
    exact ⟨hFirst other hOther,
      (hPending.ready other
        (List.mem_cons_of_mem _ hOther)).2⟩
  · intro j hj hSome
    rcases hPending.openers j (by omega) hSome with
      ⟨other, hOther, hEq⟩
    rcases List.mem_cons.mp hOther with rfl | hLater
    · omega
    · exact ⟨other, hLater, hEq⟩
  · intro _ _ hEq
    cases hEq
    exact hBehind
  · exact hMarker

end Pending

/-
  What stands for a method in the lines that a rewrite
  leaves: lines that declare nothing and end in the marker,
  and then the lines of the finished method, which end in a
  marker if the original ones did.
-/
theorem exists_assemble_cons
    (hPlain : rule.Plain)
    (reindent : Bool)
    (lines : Lines)
    {methods : List Method}
    {i : Nat}
    {seen : Lines}
    {body : Option (Nat × Nat)}
    (hPending :
      Pending rule lines (method :: methods) i seen body) :
    ∃ front own : Lines,
      (assemble rule reindent lines i
          (method :: methods)).map rule.renamed =
        front ++
          (own ++
            (assemble rule reindent lines (method.stop + 1)
              methods).map rule.renamed) ∧
      (∀ line ∈ front, opener? rule line = none) ∧
      (∀ marker ∈ rule.marker,
        endsIn marker (seen ++ front) = true) ∧
      Finished rule own ∧
      opener? rule (Lines.get own 0) = some rule.newName ∧
      ∀ marker ∈ rule.marker,
        endsIn marker (lines.take (method.stop + 1)) =
            true →
          endsIn marker (seen ++ front ++ own) = true := by
  rcases hPending.ready method List.mem_cons_self with
    ⟨hStart, hReady⟩
  have hSpans := hReady.spans
  rcases hReady.finished_mended hPlain reindent with
    ⟨hFinished, hName, hEnd⟩
  rcases settled_of_ne_doubled hSpans hReady.state with
    ⟨_, hDrop⟩
  have hTake :
      lines.take i ++
          (lines.drop i).take (method.start - i) =
        lines.take method.start := by
    rw [← List.take_add, Nat.add_sub_cancel' hStart]
  have hAbove :=
    endsIn_gap hPlain hTake hReady.indent hPending.marker
  refine ⟨_, _, ?_, ?_, hAbove, hFinished, hName, ?_⟩
  · rw [assemble_cons, alone_eq hSpans reindent hDrop]
    simp only [List.map_append, List.append_assoc]
  · apply opener?_of_mem_map hPlain
    intro line hLine
    rcases List.mem_append.mp hLine with hLine | hLine
    · exact hPending.opener?_gap line hLine
    · exact opener?_markerLines hPlain hReady.indent _ line
        hLine
  · intro marker hMarker hEnds
    have hLength := hFinished.canonical.spans.lt
    have hStop := Block.close?_lt_length hSpans.closes
    have hLengthTake :
        (lines.take (method.stop + 1)).length =
          method.stop + 1 := by
      rw [List.length_take]
      omega
    have hUnnamed :=
      hPlain.unnamed _ (Rule.marker_mem_fixedLines hMarker)
    rw [endsIn_eq_get marker (by omega), hLengthTake,
      Nat.add_sub_cancel,
      Lines.get_take _ (Nat.lt_succ_self _), beq_iff_eq]
      at hEnds
    rw [endsIn_append _
        (List.ne_nil_of_length_pos (by omega)),
      endsIn_eq_get marker (by omega), hEnd, beq_iff_eq,
      hUnnamed.trim_renamed_iff]
    exact hEnds

/-
  The search in what a rewrite leaves finds every method at
  its new place, and settled.  The induction follows the
  methods; `Pending` is what it carries from each of them to
  the next.
-/
theorem scan_assemble
    (hPlain : rule.Plain)
    (fallback : Text)
    (reindent : Bool)
    (lines : Lines)
    (methods : List Method)
    (i : Nat)
    (seen : Lines)
    (body : Option (Nat × Nat))
    (hPending : Pending rule lines methods i seen body) :
    let after :=
      (assemble rule reindent lines i methods).map
        rule.renamed
    ∃ found : List Method,
      scan rule fallback seen.length body after =
          found.map Except.ok ∧
        found.length = methods.length ∧
        ∀ method ∈ found,
          Settled rule (seen ++ after) method := by
  induction methods generalizing i seen body with
  | nil =>
      have hScan :=
        scan_append_of_none fallback seen.length body _ []
          (opener?_of_mem_map hPlain hPending.opener?_rest)
      rw [List.append_nil] at hScan
      exact ⟨[], hScan, rfl, by simp⟩
  | cons method methods ih =>
      rcases exists_assemble_cons hPlain reindent lines
          hPending with
        ⟨front, own, hAfter, hFront, hAbove, hFinished,
          hName, hMarker⟩
      have hOwn := hFinished.canonical.spans.lt
      have hBehind : ∀ start stop,
          body = some (start, stop) →
            stop < (seen ++ front).length := by
        intro start stop hEq
        have := hPending.behind start stop hEq
        rw [List.length_append]
        omega
      rcases scan_finished fallback
          (seen ++ front).length body
          ((assemble rule reindent lines (method.stop + 1)
            methods).map rule.renamed) hFinished hName
          hBehind with
        ⟨first, hFirstName, hFirstStart, hFirstStop, hScan⟩
      have hPassed :
          (seen ++ front).length + (own.length - 1) <
            (seen ++ front ++ own).length := by
        rw [@List.length_append _ (seen ++ front)]
        omega
      have hNext :
          Pending rule lines methods (method.stop + 1)
            (seen ++ front ++ own)
            (some
              ((seen ++ front).length,
                (seen ++ front).length +
                  (own.length - 1))) :=
        hPending.next hPassed hMarker
      rcases ih _ _ _ hNext with
        ⟨found, hFound, hCount, hSettled⟩
      intro after
      have hWhole :
          seen ++ after =
            seen ++ front ++
              (own ++
                (assemble rule reindent lines
                  (method.stop + 1) methods).map
                    rule.renamed) := by
        unfold after
        rw [hAfter, List.append_assoc]
      refine ⟨first :: found, ?_, by simp [hCount], ?_⟩
      · unfold after
        rw [hAfter,
          scan_append_of_none fallback _ _ front _ hFront,
          ← List.length_append, hScan, ← List.length_append,
          hFound]
        rfl
      · intro other hOther
        rcases List.mem_cons.mp hOther with rfl | hLater
        · rw [hWhole]
          exact settled_of_finished _ hFinished hFirstName
            hFirstStart hFirstStop hAbove
        · have hLaterSettled := hSettled other hLater
          rw [hWhole, ← List.append_assoc]
          exact hLaterSettled

end Method

------------------------------------------------------------
-- One Pass
------------------------------------------------------------

/- A search that only finds methods. -/
theorem Survey.ofFound_map_ok
    (methods : List Method) :
    ofFound (methods.map Except.ok) =
      { methods, unbalanced := [], conflict := none } := by
  induction methods with
  | nil => rfl
  | cons method methods ih =>
      rw [List.map_cons, ofFound, ih]

namespace Rule

open Method

variable {rule : Rule} {layout : Layout} {lines : Lines}

/- What a method has to meet to be settled by one rewrite. -/
theorem ready_of_mem_survey
    (hUnit : Text.allBlank layout.unit = true)
    (hConflict :
      (rule.survey layout lines).conflict = none)
    {method : Method}
    (hMethod :
      method ∈ (rule.survey layout lines).methods)
    (hState : method.bodyState rule lines ≠ .doubled)
    (hBalance :
      Line.braceBalance (Lines.get lines method.stop) = -1)
    (hClose :
      rule.closesAnnotated (Lines.get lines method.stop) =
        false) :
    Ready rule lines method := by
  have hLocated := located_of_mem_survey hMethod
  exact
    { spans := Spans.of_located hLocated
      indent := hLocated.allBlank_indent
      unit := hLocated.allBlank_unit hUnit
      state := hState
      balance := hBalance
      plain := hClose
      inside := fun i hStart hStop =>
        opener?_inside hConflict hMethod hStart hStop }

/-
  What a second search finds behind the rewrite of methods
  in order: as many of them, and all of them settled.
-/
theorem survey_rewrite
    (hPlain : rule.Plain)
    (hConflict :
      (rule.survey layout lines).conflict = none)
    (hUnbalanced :
      (rule.survey layout lines).unbalanced = [])
    (hReady :
      ∀ method ∈ (rule.survey layout lines).methods,
        Ready rule lines method)
    (hSome : (rule.survey layout lines).isEmpty = false) :
    let next :=
      (rule.rewrite layout (rule.survey layout lines)
        lines).lines
    ∃ methods : List Method,
      rule.survey layout next =
          { methods, unbalanced := [], conflict := none } ∧
        methods.length =
          (rule.survey layout lines).methods.length ∧
        (∀ method ∈ methods, Settled rule next method) ∧
        Lines.Renamed rule next := by
  have hMethods :
      ∀ method ∈ (rule.survey layout lines).methods,
        0 ≤ method.start ∧
          Spans rule lines method.start method.stop ∧
          Repair.dropSurplus? rule method.start lines =
            none := by
    intro method hMethod
    have hSpans := (hReady method hMethod).spans
    exact ⟨Nat.zero_le _, hSpans,
      (settled_of_ne_doubled hSpans
        (hReady method hMethod).state).2⟩
  have hAll :=
    rewriteAll_eq_assemble layout.reindent lines _ 0
      (survey_pairwise hConflict) hMethods
  rw [List.take_zero, List.nil_append] at hAll
  intro next
  have hNext :
      next =
        (Lines.renameAll rule
          (assemble rule layout.reindent lines 0
            (rule.survey layout lines).methods)).1 := by
    unfold next rewrite
    rw [if_neg (by simp [hSome])]
    simp only
    rw [hAll]
  have hPending :
      Pending rule lines
        (rule.survey layout lines).methods 0 [] none := by
    constructor
    · exact survey_pairwise hConflict
    · intro method hMethod
      exact ⟨Nat.zero_le _, hReady method hMethod⟩
    · intro j _ hOpener
      rcases opener_of_survey hConflict hOpener with
        hMethod | hUnclosed
      · exact hMethod
      · rw [hUnbalanced] at hUnclosed
        cases hUnclosed
    · intro _ _ hEq
      cases hEq
    · exact fun _ _ hEnds => hEnds
  rcases scan_assemble hPlain layout.unit layout.reindent
      lines _ 0 [] none hPending with
    ⟨methods, hScan, hLength, hSettled⟩
  rw [← Lines.renameAll_fst, ← hNext] at hScan
  refine ⟨methods, ?_, hLength, ?_, ?_⟩
  · have hSurvey :
        rule.survey layout next =
          Survey.ofFound
            (scan rule layout.unit 0 none next) := rfl
    rw [hSurvey]
    exact (congrArg Survey.ofFound hScan).trans
      (Survey.ofFound_map_ok methods)
  · rw [hNext, Lines.renameAll_fst]
    exact hSettled
  · rw [hNext]
    exact Lines.renamed_renameAll rule _

/-
  Applying a plain rule to lines in which every declaration
  has a body in order settles all of them: a second search
  finds as many methods, each of them canonical, with the new
  name and below its marker, and applying the rule again
  changes no line and counts no edit.
-/
theorem apply_converges
    (rule : Rule)
    (layout : Layout)
    (lines : Lines)
    (hPlain : rule.Plain)
    (hUnit : Text.allBlank layout.unit = true)
    (hConflict :
      (rule.survey layout lines).conflict = none)
    (hUnbalanced :
      (rule.survey layout lines).unbalanced = [])
    (hMethods :
      ∀ method ∈ (rule.survey layout lines).methods,
        method.bodyState rule lines ≠ .doubled ∧
          Line.braceBalance (Lines.get lines method.stop) =
            -1 ∧
          rule.closesAnnotated
              (Lines.get lines method.stop) =
            false) :
    ∃ once twice methods,
      rule.apply layout lines = .ok (once, []) ∧
        rule.survey layout once.lines =
          { methods, unbalanced := [], conflict := none } ∧
        methods.length =
          (rule.survey layout lines).methods.length ∧
        (∀ method ∈ methods,
          Settled rule once.lines method) ∧
        rule.apply layout once.lines = .ok (twice, []) ∧
        twice.lines = once.lines ∧
        twice.counts.Idle := by
  have hReady :
      ∀ method ∈ (rule.survey layout lines).methods,
        Ready rule lines method := by
    intro method hMethod
    rcases hMethods method hMethod with
      ⟨hState, hBalance, hClose⟩
    exact ready_of_mem_survey hUnit hConflict hMethod hState
      hBalance hClose
  have hOnce := apply_of_conflict_eq_none hConflict
  rw [hUnbalanced] at hOnce
  cases hEmpty : (rule.survey layout lines).isEmpty with
  | true =>
      rw [rewrite_of_isEmpty hEmpty] at hOnce
      have hNone := (Survey.isEmpty_iff.mp hEmpty).1
      refine ⟨{ lines }, { lines }, [], hOnce, ?_, ?_, ?_,
        hOnce, rfl, ⟨rfl, rfl, rfl, rfl, rfl, rfl⟩⟩
      · rw [← hNone, ← hUnbalanced, ← hConflict]
      · rw [hNone]
      · simp
  | false =>
      rcases survey_rewrite hPlain hConflict hUnbalanced
          hReady hEmpty with
        ⟨methods, hSurvey, hLength, hSettled, hRenamed⟩
      have hAgain :=
        apply_of_conflict_eq_none
          (congrArg Survey.conflict hSurvey)
      rw [congrArg Survey.unbalanced hSurvey] at hAgain
      have hIdle :=
        rewrite_of_settled
          (fun method hMethod => by
            rw [hSurvey] at hMethod
            exact hSettled method hMethod) hRenamed
      exact ⟨_, _, methods, hOnce, hSurvey, hLength,
        hSettled, hAgain, hIdle.1, hIdle.2⟩

/- A method without a wrapper and one that has it. -/
theorem apply_converges_unwrapped :
    let layout : Layout :=
      { unit := "  ".toList, reindent := true }
    let lines : Lines :=
      ["void _generateQuestion() \x7b".toList,
        "  a();".toList,
        "\x7d".toList]
    standard.Plain ∧
      Text.allBlank layout.unit = true ∧
      (standard.survey layout lines).conflict = none ∧
      (standard.survey layout lines).unbalanced = [] ∧
      (∀ method ∈ (standard.survey layout lines).methods,
        method.bodyState standard lines ≠ .doubled ∧
          Line.braceBalance (Lines.get lines method.stop) =
            -1 ∧
          standard.closesAnnotated
              (Lines.get lines method.stop) =
            false) ∧
      ∃ once twice methods,
        standard.apply layout lines = .ok (once, []) ∧
          standard.survey layout once.lines =
            { methods
              unbalanced := []
              conflict := none } ∧
          methods.length =
            (standard.survey layout lines).methods.length ∧
          (∀ method ∈ methods,
            Settled standard once.lines method) ∧
          standard.apply layout once.lines =
            .ok (twice, []) ∧
          twice.lines = once.lines ∧
          twice.counts.Idle := by
  intro layout lines
  have hMethods :
      (standard.survey layout lines).methods =
        [{ name := "_generateQuestion".toList
           start := 0
           stop := 2
           indent := []
           unit := "  ".toList }] := rfl
  have hAll :
      ∀ method ∈ (standard.survey layout lines).methods,
        method.bodyState standard lines ≠ .doubled ∧
          Line.braceBalance (Lines.get lines method.stop) =
            -1 ∧
          standard.closesAnnotated
              (Lines.get lines method.stop) =
            false := by
    intro method hMethod
    rw [hMethods, List.mem_singleton] at hMethod
    subst hMethod
    exact ⟨by decide, rfl, rfl⟩
  exact ⟨plain_standard, rfl, rfl, rfl, hAll,
    apply_converges standard layout lines plain_standard rfl
      rfl rfl hAll⟩

end Rule

end NotifyScope
