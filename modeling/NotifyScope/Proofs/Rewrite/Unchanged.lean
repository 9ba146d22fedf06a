import NotifyScope.Proofs.Method.Canonical
import NotifyScope.Proofs.Method.Frame
import NotifyScope.Proofs.Rewrite.Settled
import NotifyScope.Proofs.Source.Lines

/-
  What the absence of any effect tells.  Each kind of edit
  shows in the lines of the method it is made in, and no edit
  below or above can make up for it; so if a rewrite leaves
  the lines as they are, up to white space around them, then
  every method that it found is settled.

  Main declarations:
    * `Method.canonical_of_rewriteBody`
    * `Method.settled_of_rewrite`
    * `Rule.settled_of_rewrite`
-/

------------------------------------------------------------
-- Effects on Bodies
------------------------------------------------------------

namespace NotifyScope

namespace Method

variable {rule : Rule}
variable {method : Method}
variable {lines : Lines}

/- A wrapper moves the end of a method down by two lines. -/
theorem close?_wrap
    (reindent : Bool)
    (hSpans : Spans rule lines method.start method.stop)
    (hIndent : Text.allBlank method.indent = true)
    (hUnit : Text.allBlank method.unit = true) :
    Block.close? (method.wrap rule reindent lines).1
        method.start =
      some (method.stop + 2) := by
  have hLess := hSpans.lt
  have hLength := length_own hSpans
  have hStart := length_take_start hSpans
  have hWhole := whole_own hSpans
  have hContext :=
    wrap_context reindent hWhole (lines.take method.start)
      (lines.drop (method.stop + 1)) hStart.symm (by omega)
  rw [take_append_own method lines hLess] at hContext
  rcases hWhole.exists_eq with ⟨decl, inner, last, hOwn⟩
  rw [hOwn] at hWhole hContext hLength
  simp only [List.length_cons, List.length_append,
    List.length_nil] at hLength
  have hStop :
      (method.moveTo 0).stop = inner.length + 1 := by
    unfold moveTo
    simp only
    omega
  have hInner :=
    spans_wrap reindent hWhole rfl hStop hIndent hUnit
  have hEnd :
      ((method.moveTo 0).wrap rule reindent
          (decl :: (inner ++ [last]))).1.length =
        inner.length + 4 := by
    rw [wrap_eq_wrappedLines reindent decl last inner rfl
      hStop, length_wrappedLines, length_shifted]
  have hWrapped :
      Whole rule
        ((method.moveTo 0).wrap rule reindent
          (decl :: (inner ++ [last]))).1 := by
    unfold Whole
    rw [hEnd]
    exact hInner
  have hClose :=
    (hWrapped.spans_context (lines.take method.start)
      (lines.drop (method.stop + 1))).closes
  rw [hEnd, hStart] at hClose
  rw [hContext, hClose, Option.some.injEq]
  omega

/- An annotation on the end of a wrapper is taken off. -/
theorem exists_annotated_of_legacy
    (hSpans : Spans rule lines method.start method.stop)
    (hState : method.bodyState rule lines = .legacy) :
    ∃ last, last ≤ method.stop ∧
      rule.closesAnnotated (Lines.get lines last) = true ∧
      rule.closesAnnotated
          (Lines.get (method.repair rule lines).1 last) =
        false := by
  rcases (bodyState_eq_legacy_iff hSpans).mp hState with
    ⟨hCollapse, hDrop, first, last, hWrapped, hAnnotated⟩
  have hOrder :=
    Lines.lastFilled?_eq_some_iff.mp hWrapped.isLast
  refine ⟨last, hOrder.2.1.le, hAnnotated, ?_⟩
  unfold repair
  simp only [Repair.settle_of_none hCollapse hDrop]
  rw [Repair.get_normalize hSpans.closes,
    if_pos ⟨⟨hOrder.1, hOrder.2.1⟩, hAnnotated⟩]
  have hCloses :
      rule.closesWrapper
          (Text.leading (Lines.get lines last) ++
            rule.wrapClose) = true :=
    Rule.closesWrapper_append (Text.allBlank_leading _)
  rw [Rule.closesWrapper_eq, Bool.and_eq_true,
    Bool.not_eq_true'] at hCloses
  exact hCloses.2

/- A method that still closes once it is repaired is sound. -/
theorem repair_ends
    {stop : Nat}
    (hSpans :
      Spans rule (method.repair rule lines).1 method.start
        stop) :
    Repair.collapse? rule method.start
          (method.repair rule lines).1 =
        none ∧
      Repair.dropSurplus? rule method.start
          (method.repair rule lines).1 =
        none := by
  rcases Repair.settle_ends rule method.start lines with
    ⟨hCollapse, hDrop⟩
  unfold repair at hSpans ⊢
  simp only at hSpans ⊢
  generalize (Repair.settle rule method.start lines).1 =
    settled at hSpans hCollapse hDrop ⊢
  cases hClose : Block.close? settled method.start with
  | none =>
      unfold Repair.normalize
      simp only [hClose]
      exact ⟨hCollapse, hDrop⟩
  | some other =>
      have hOrder := Block.lt_close? hClose
      obtain ⟨s, rfl⟩ :=
        Nat.exists_eq_add_of_le hOrder.le
      have hWindow :
          Lines.Window rule settled method.start
            (Repair.normalize rule method.start settled).1
            method.start (s + 1) :=
        Repair.window_normalize hClose (s + 1)
      have hOpener := hSpans.opener
      rw [Repair.get_normalize_of_le settled le_rfl]
        at hOpener
      have hBefore :
          Spans rule settled method.start
            (method.start + s) :=
        ⟨hClose, hOpener⟩
      have hAfter :=
        hWindow.spans (Nat.lt_succ_self s) hSpans.opener
          hBefore
      exact
        ⟨hWindow.collapse?_eq_none (Nat.lt_succ_self s)
            hBefore hAfter hCollapse,
          hWindow.dropSurplus?_eq_none
            (fun i _ hAnnotated =>
              Repair.closesAnnotated_of_normalize hClose
                hAnnotated)
            (Nat.lt_succ_self s) hBefore hAfter hDrop⟩

/-
  A body that a rewrite leaves as it is, up to white space
  and names, is canonical: any other one gets another end,
  loses an annotation, or could still be repaired.
-/
theorem canonical_of_rewriteBody
    (hPlain : rule.Plain)
    (reindent : Bool)
    (hSpans : Spans rule lines method.start method.stop)
    (hIndent : Text.allBlank method.indent = true)
    (hUnit : Text.allBlank method.unit = true)
    (hSame : ∀ i, i ≤ method.stop →
      Text.trim
          (rule.renamed
            (Lines.get
              (method.rewriteBody rule reindent lines).lines
              i)) =
        Text.trim (Lines.get lines i)) :
    method.bodyState rule lines = .canonical := by
  obtain ⟨s, hStop⟩ := Nat.exists_eq_add_of_le hSpans.lt.le
  have hStart :=
    hSpans.lt.trans (Block.close?_lt_length hSpans.closes)
  have hOpener :
      Lines.get
          (method.rewriteBody rule reindent lines).lines
          method.start =
        Lines.get lines method.start :=
    get_rewriteBody_of_le reindent hStart le_rfl
  generalize hBody :
    (method.rewriteBody rule reindent lines).lines = body
    at hSame hOpener
  have hWindow :
      Lines.Window rule lines method.start body method.start
        (s + 1) := by
    intro i hi
    exact
      ((Rule.alike_renamed hPlain _).trans
        (Rule.Alike.of_trim_eq (hSame _ (by omega)))).symm
  have hAnnotated : ∀ i, i ≤ method.stop →
      rule.closesAnnotated (Lines.get body i) =
        rule.closesAnnotated (Lines.get lines i) := by
    intro i hi
    rw [← Rule.closesAnnotated_renamed hPlain,
      Rule.closesAnnotated_congr (hSame i hi)]
  have hLines := hSpans
  rw [hStop] at hLines
  have hAfter :=
    hWindow.spans (Nat.lt_succ_self s)
      (by rw [hOpener]; exact hSpans.opener) hLines
  unfold rewriteBody at hBody
  cases hState : method.bodyState rule lines with
  | canonical => rfl
  | unwrapped =>
      simp only [hState] at hBody
      have hClose :=
        close?_wrap reindent hSpans hIndent hUnit
      rw [hBody, hAfter.closes, Option.some.injEq] at hClose
      omega
  | legacy =>
      simp only [hState] at hBody
      rcases exists_annotated_of_legacy hSpans hState with
        ⟨last, hLe, hBefore, hBehind⟩
      rw [hBody, hAnnotated last hLe, hBefore] at hBehind
      cases hBehind
  | doubled =>
      simp only [hState] at hBody
      rw [← hBody] at hAfter
      rcases repair_ends hAfter with ⟨hCollapse, hDrop⟩
      rw [hBody] at hCollapse hDrop hAfter
      rw [bodyState_eq_doubled_iff hSpans,
        ← Option.ne_none_iff_isSome,
        ← Option.ne_none_iff_isSome] at hState
      rcases hState with hNe | hNe
      · exact absurd
          (hWindow.symm.collapse?_eq_none
            (Nat.lt_succ_self s) hAfter hLines hCollapse)
          hNe
      · refine absurd
          (hWindow.symm.dropSurplus?_eq_none ?_
            (Nat.lt_succ_self s) hAfter hLines hDrop) hNe
        intro i hi hCloses
        rw [hAnnotated _ (by omega)]
        exact hCloses

------------------------------------------------------------
-- Effects on Declarations
------------------------------------------------------------

theorem renamed_get_set
    (rule : Rule)
    (lines : Lines)
    (i j : Nat) :
    rule.renamed
        (Lines.get
          (lines.set i (rule.renamed (Lines.get lines i)))
          j) =
      rule.renamed (Lines.get lines j) := by
  rw [← Lines.get_map _ rule.renamed_nil,
    Lines.map_renamed_set, Lines.get_map _ rule.renamed_nil]

/- With its marker above it a declaration is renamed only. -/
theorem renamed_get_renameDeclaration
    (hMarker : ∀ marker ∈ rule.marker,
      Lines.hasMarkerAbove lines method.start marker = true)
    (i : Nat) :
    rule.renamed
        (Lines.get (method.renameDeclaration rule lines).1
          i) =
      rule.renamed (Lines.get lines i) := by
  cases hSome : rule.marker with
  | none =>
      rw [renameDeclaration_of_none method lines hSome,
        renamed_get_set]
  | some marker =>
      have hAbove := hMarker marker hSome
      rw [renameDeclaration_of_some method lines hSome]
      unfold Lines.insertMarker
      rw [hasMarkerAbove_set, if_pos hAbove, renamed_get_set]

/- A marker that is missing goes in front of the line. -/
theorem get_renameDeclaration_of_marker
    {marker : Line}
    (hSome : rule.marker = some marker)
    (hMissing :
      Lines.hasMarkerAbove lines method.start marker = false)
    (hLess : method.start < lines.length) :
    Lines.get (method.renameDeclaration rule lines).1
        method.start =
      method.indent ++ marker := by
  rw [renameDeclaration_of_some method lines hSome]
  unfold Lines.insertMarker
  rw [hasMarkerAbove_set, hMissing,
    if_neg Bool.false_ne_true]
  apply Lines.get_insertIdx_self
  rw [List.length_set]
  exact hLess.le

/-
  Where a rewrite leaves the declaration line, the marker is
  above it: a new marker would take its place, and is none.
-/
theorem hasMarkerAbove_of_rewrite
    (hMarker : ∀ marker ∈ rule.marker,
      Line.braceBalance marker ≠ 1)
    (reindent : Bool)
    (hSpans : Spans rule lines method.start method.stop)
    (hIndent : Text.allBlank method.indent = true)
    (hSame :
      Text.trim
          (rule.renamed
            (Lines.get
              (method.rewrite rule reindent lines).lines
              method.start)) =
        Text.trim (Lines.get lines method.start)) :
    ∀ marker ∈ rule.marker,
      Lines.hasMarkerAbove
          (method.rewriteBody rule reindent lines).lines
          method.start marker =
        true := by
  intro marker hSome
  by_contra hMissing
  rw [Bool.not_eq_true] at hMissing
  have hStart :=
    hSpans.lt.trans (Block.close?_lt_length hSpans.closes)
  have hFilled := hSpans.braceBalance_start
  have hLength :
      method.start <
        (method.rewriteBody rule reindent
          lines).lines.length := by
    apply Lines.lt_length_of_filled
    apply Line.not_allBlank_of_braceBalance_ne
    rw [get_rewriteBody_of_le reindent hStart le_rfl,
      hFilled]
    decide
  unfold rewrite at hSame
  simp only at hSame
  rw [get_renameDeclaration_of_marker hSome hMissing hLength]
    at hSame
  have hBalance := Line.braceBalance_eq_of_trim_eq hSame
  rw [rule.braceBalance_renamed, Line.braceBalance_append,
    Line.braceBalance_of_allBlank hIndent, hFilled,
    Int.zero_add] at hBalance
  exact hMarker marker hSome hBalance

/-
  A method that a rewrite leaves as it is, up to white space
  and names, is settled.
-/
theorem settled_of_rewrite
    (hPlain : rule.Plain)
    (hMarker : ∀ marker ∈ rule.marker,
      Line.braceBalance marker ≠ 1)
    (reindent : Bool)
    (hSpans : Spans rule lines method.start method.stop)
    (hName :
      opener? rule (Lines.get lines method.start) =
        some method.name)
    (hIndent : Text.allBlank method.indent = true)
    (hUnit : Text.allBlank method.unit = true)
    (hSame : ∀ i, i ≤ method.stop →
      Text.trim
          (rule.renamed
            (Lines.get
              (method.rewrite rule reindent lines).lines
              i)) =
        Text.trim (Lines.get lines i)) :
    Settled rule lines method := by
  have hStart :=
    hSpans.lt.trans (Block.close?_lt_length hSpans.closes)
  have hKept : ∀ i, i ≤ method.start →
      Lines.get
          (method.rewriteBody rule reindent lines).lines i =
        Lines.get lines i :=
    fun i hi => get_rewriteBody_of_le reindent hStart hi
  have hAbove :=
    hasMarkerAbove_of_rewrite hMarker reindent hSpans hIndent
      (hSame method.start hSpans.lt.le)
  have hBody : ∀ i, i ≤ method.stop →
      Text.trim
          (rule.renamed
            (Lines.get
              (method.rewriteBody rule reindent lines).lines
              i)) =
        Text.trim (Lines.get lines i) := by
    intro i hi
    rw [← renamed_get_renameDeclaration hAbove]
    exact hSame i hi
  constructor
  · exact canonical_of_rewriteBody hPlain reindent hSpans
      hIndent hUnit hBody
  · have hRenamed :=
      rule.renamed_eq_of_trim_eq
        (hBody method.start hSpans.lt.le)
    have hAgain := opener?_renamed hPlain.clear
      (Lines.get lines method.start)
    rw [hRenamed, hName, Option.map_some,
      Option.some.injEq] at hAgain
    exact hAgain
  · intro marker hSome
    rw [← hAbove marker hSome]
    exact hasMarkerAbove_congr marker fun j hj =>
      (hKept j hj.le).symm

------------------------------------------------------------
-- Effects on All Methods
------------------------------------------------------------

/- A settled method is settled wherever its lines are. -/
theorem Settled.of_get_eq
    {other : Lines}
    (hSpans : Spans rule lines method.start method.stop)
    (hGet : ∀ i, i ≤ method.stop →
      Lines.get other i = Lines.get lines i)
    (hSettled : Settled rule other method) :
    Settled rule lines method := by
  obtain ⟨s, hStop⟩ := Nat.exists_eq_add_of_le hSpans.lt.le
  have hWindow :
      Lines.Window rule lines method.start other method.start
        (s + 1) := by
    intro i hi
    rw [hGet _ (by omega)]
    exact Rule.Alike.refl _
  constructor
  · rw [bodyState_window hWindow
      (fun i hi => by rw [hGet _ (by omega)]) hStop hStop
      hSpans (hSpans.of_get_eq hGet)]
    exact hSettled.state
  · exact hSettled.name
  · intro marker hSome
    rw [← hSettled.marker marker hSome]
    exact hasMarkerAbove_congr marker fun j hj =>
      (hGet j (hj.trans hSpans.lt).le).symm

/-
  If rewriting methods leaves all lines as they are, up to
  white space and names, then all of them are settled.  The
  induction starts at the topmost method, which is rewritten
  last: it finds its lines unchanged, is settled by what it
  leaves of them, and so does nothing, whence the methods
  below leave all lines as they are.
-/
theorem settled_of_rewriteAll
    (hPlain : rule.Plain)
    (hMarker : ∀ marker ∈ rule.marker,
      Line.braceBalance marker ≠ 1)
    (reindent : Bool)
    {fallback : Text}
    (hFallback : Text.allBlank fallback = true)
    (methods : List Method)
    (hOrder : methods.Pairwise fun earlier later =>
      earlier.stop < later.start)
    (hLocated : ∀ method ∈ methods,
      Located rule fallback lines method)
    (hSame :
      Lines.Matches
        ((rewriteAll rule reindent methods lines).lines.map
          rule.renamed)
        lines) :
    ∀ method ∈ methods, Settled rule lines method := by
  induction methods with
  | nil =>
      intro method hMethod
      cases hMethod
  | cons method methods ih =>
      have hRest := (List.pairwise_cons.mp hOrder).2
      have hLater : ∀ other ∈ methods,
          Located rule fallback lines other :=
        fun other hOther =>
          hLocated other (List.mem_cons_of_mem _ hOther)
      have hOwn := hLocated method List.mem_cons_self
      have hSpans := Spans.of_located hOwn
      have hGet : ∀ i, i ≤ method.stop →
          Lines.get
              (rewriteAll rule reindent methods lines).lines
              i =
            Lines.get lines i :=
        fun i hi => get_rewriteAll_of_le reindent hOrder
          (fun other hOther =>
            Spans.of_located (hLater other hOther)) hi
      have hMoved := hSpans.of_get_eq hGet
      have hStart := hGet method.start hSpans.lt.le
      have hShown : ∀ i,
          Text.trim
              (rule.renamed
                (Lines.get
                  (rewriteAll rule reindent
                    (method :: methods) lines).lines i)) =
            Text.trim (Lines.get lines i) := by
        intro i
        rw [← Lines.get_map _ rule.renamed_nil]
        exact hSame i
      have hSettled :=
        settled_of_rewrite hPlain hMarker reindent hMoved
          (by rw [hStart]; exact hOwn.name)
          hOwn.allBlank_indent
          (hOwn.allBlank_unit hFallback)
          (fun i hi => by rw [hGet i hi]; exact hShown i)
      have hLine :
          rule.renamed (Lines.get lines method.start) =
            Lines.get lines method.start :=
        rule.renamed_eq_of_trim_eq (hShown method.start)
      have hRename :=
        rule.renameLine_renamed
          (Lines.get lines method.start)
      rw [hLine, ← hStart] at hRename
      have hIdle :=
        (rewrite_of_settled reindent hSettled hRename
          (hMoved.lt.trans
            (Block.close?_lt_length hMoved.closes))).1
      have hBelow :
          (rewriteAll rule reindent (method :: methods)
              lines).lines =
            (rewriteAll rule reindent methods
              lines).lines := hIdle
      rw [hBelow] at hSame
      intro other hOther
      rcases List.mem_cons.mp hOther with rfl | hOther
      · exact hSettled.of_get_eq hSpans hGet
      · exact ih hRest hLater hSame other hOther

end Method

------------------------------------------------------------
-- A Whole Rule
------------------------------------------------------------

namespace Rule

open Method

variable {rule : Rule} {layout : Layout} {lines : Lines}

/-
  A rewrite that changes no more than white space around the
  lines has found settled methods only.
-/
theorem settled_of_rewrite
    (hPlain : rule.Plain)
    (hMarker : ∀ marker ∈ rule.marker,
      Line.braceBalance marker ≠ 1)
    (hUnit : Text.allBlank layout.unit = true)
    (hConflict :
      (rule.survey layout lines).conflict = none)
    (hSame :
      Lines.Matches
        (rule.rewrite layout (rule.survey layout lines)
          lines).lines
        lines) :
    ∀ method ∈ (rule.survey layout lines).methods,
      Settled rule lines method := by
  unfold rewrite at hSame
  split at hSame
  · rename_i hEmpty
    rw [(Survey.isEmpty_iff.mp hEmpty).1]
    intro method hMethod
    cases hMethod
  · simp only [Lines.renameAll_fst] at hSame
    exact settled_of_rewriteAll hPlain hMarker
      layout.reindent hUnit _ (survey_pairwise hConflict)
      (fun method hMethod => located_of_mem_survey hMethod)
      hSame

end Rule

end NotifyScope
