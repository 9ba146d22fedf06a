import NotifyScope.Proofs.Document.Outcome
import NotifyScope.Proofs.Rewrite.Covered
import NotifyScope.Proofs.Rewrite.References

/-
  Markers that a second rewrite puts in.  The renaming at the
  end of a rewrite reaches the markers it has just put in, so
  a marker that mentions the old name is not recognised the
  next time, and every method gets another one.  Any other
  marker is put in once for all, as far as a rule and the
  lines keep to what a marker and a declaration should be.

  Key definitions include:
    * `Rule.RenamesMarker`
    * `Lines.Evident`

  Main declarations:
    * `Method.markersInserted_rewriteAll`
    * `Rule.markersInserted_again_of_renamesMarker`
    * `Rule.markersInserted_again_eq_zero_iff`
-/

------------------------------------------------------------
-- Counting Markers
------------------------------------------------------------

namespace NotifyScope

/- The markers of two pieces of work together. -/
theorem Counts.add_markersInserted
    (left right : Counts) :
    (left + right).markersInserted =
      left.markersInserted + right.markersInserted := rfl

namespace Method

variable {rule : Rule}
variable {method : Method}
variable {lines : Lines}

/- Whether a method has no marker of a rule above it. -/
def lacksMarker
    (rule : Rule)
    (lines : Lines)
    (method : Method) : Bool :=
  rule.marker.any fun marker =>
    !Lines.hasMarkerAbove lines method.start marker

theorem lacksMarker_congr
    {other : Lines}
    (hAbove : ∀ i, i < method.start →
      Lines.get lines i = Lines.get other i) :
    method.lacksMarker rule lines =
      method.lacksMarker rule other := by
  unfold lacksMarker
  cases rule.marker with
  | none => rfl
  | some marker =>
      rw [Option.any_some, Option.any_some,
        hasMarkerAbove_congr marker hAbove]

theorem markersInserted_rewriteBody
    (rule : Rule)
    (reindent : Bool)
    (method : Method)
    (lines : Lines) :
    (method.rewriteBody rule reindent
      lines).counts.markersInserted = 0 := by
  unfold rewriteBody
  cases method.bodyState rule lines <;> rfl

/- A method gets a marker if it lacks one. -/
theorem markersInserted_rewrite
    (rule : Rule)
    (reindent : Bool)
    (hStart : method.start < lines.length) :
    (method.rewrite rule reindent
        lines).counts.markersInserted =
      (method.lacksMarker rule lines).toNat := by
  have hBody :=
    markersInserted_rewriteBody rule reindent method lines
  have hSame :
      method.lacksMarker rule
          (method.rewriteBody rule reindent lines).lines =
        method.lacksMarker rule lines :=
    lacksMarker_congr fun i hi =>
      get_rewriteBody_of_le reindent hStart hi.le
  unfold rewrite
  simp only [Counts.add_markersInserted, hBody,
    Counts.ofDeclaration, renameDeclaration_snd,
    Nat.zero_add]
  exact congrArg Bool.toNat hSame

/-
  So as many markers are put in as methods lack one.  Each is
  looked at when the methods below it are done, in lines that
  are the same above it.
-/
theorem markersInserted_rewriteAll
    (reindent : Bool)
    (methods : List Method)
    (hOrder : methods.Pairwise fun earlier later =>
      earlier.stop < later.start)
    (hSpans : ∀ method ∈ methods,
      Spans rule lines method.start method.stop) :
    (rewriteAll rule reindent methods
        lines).counts.markersInserted =
      methods.countP (lacksMarker rule lines) := by
  induction methods with
  | nil => rfl
  | cons method methods ih =>
      rcases List.forall_mem_cons.mp hSpans with
        ⟨hOwn, hRest⟩
      have hGet : ∀ i, i ≤ method.stop →
          Lines.get
              (rewriteAll rule reindent methods lines).lines
              i =
            Lines.get lines i :=
        fun i hi =>
          get_rewriteAll_of_le reindent hOrder hRest hi
      have hMoved := hOwn.of_get_eq hGet
      have hStart :=
        hMoved.lt.trans
          (Block.close?_lt_length hMoved.closes)
      have hStep :=
        markersInserted_rewrite rule reindent hStart
      have hLess := hOwn.lt
      have hSame :
          method.lacksMarker rule
              (rewriteAll rule reindent methods lines).lines =
            method.lacksMarker rule lines :=
        lacksMarker_congr fun i hi => hGet i (by omega)
      rw [hSame] at hStep
      have hSum :=
        congrArg₂ (· + ·)
          (ih (List.pairwise_cons.mp hOrder).2 hRest) hStep
      rw [List.countP_cons]
      refine Eq.trans hSum ?_
      cases method.lacksMarker rule lines <;> rfl

end Method

namespace Rule

variable {rule : Rule} {layout : Layout} {lines : Lines}

theorem markersInserted_rewrite
    (hConflict :
      (rule.survey layout lines).conflict = none) :
    (rule.rewrite layout (rule.survey layout lines)
        lines).counts.markersInserted =
      (rule.survey layout lines).methods.countP
        (Method.lacksMarker rule lines) := by
  have hAll :=
    Method.markersInserted_rewriteAll layout.reindent _
      (survey_pairwise hConflict) fun method hMethod =>
        Method.Spans.of_located
          (located_of_mem_survey hMethod)
  cases hEmpty : (rule.survey layout lines).isEmpty with
  | true =>
      rw [rewrite_of_isEmpty hEmpty,
        (Survey.isEmpty_iff.mp hEmpty).1]
      rfl
  | false =>
      rw [(rewrite_of_found hEmpty).2]
      simp only [Counts.add_markersInserted, hAll,
        Nat.zero_add]

------------------------------------------------------------
-- Markers with the Old Name
------------------------------------------------------------

/- A line is kept by a renaming that finds nothing in it. -/
theorem renamed_eq_self_iff
    {line : Line} :
    rule.renamed line = line ↔
      rule.oldName = rule.newName ∨
        ¬Identifier.Occurs rule.oldName line := by
  constructor
  · intro hSame
    rw [or_iff_not_imp_left]
    intro hNe
    rw [← hSame]
    exact not_occurs_renamed hNe line
  · rintro (hEq | hNot)
    · exact rule.renamed_of_eq hEq line
    · by_cases hEq : rule.oldName = rule.newName
      · exact rule.renamed_of_eq hEq line
      · rw [Identifier.occurs_iff_mem_tokens
          rule.oldName_isName] at hNot
        rw [rule.renamed_of_ne hEq,
          Identifier.rename_eq_self rule.oldName_isName _
            hNot]

/- Whether a rule renames the marker that it puts in. -/
def RenamesMarker
    (rule : Rule) : Prop :=
  rule.oldName ≠ rule.newName ∧
    ∃ marker ∈ rule.marker,
      Identifier.Occurs rule.oldName marker

theorem renamesMarker_iff
    {marker : Line}
    (hSome : rule.marker = some marker) :
    rule.RenamesMarker ↔ rule.renamed marker ≠ marker := by
  have hKept :=
    not_congr (@renamed_eq_self_iff rule marker)
  rw [not_or, not_not] at hKept
  rw [Ne, hKept]
  unfold RenamesMarker
  rw [hSome]
  constructor
  · rintro ⟨hNe, other, hOther, hOccurs⟩
    cases hOther
    exact ⟨hNe, hOccurs⟩
  · rintro ⟨hNe, hOccurs⟩
    exact ⟨hNe, marker, rfl, hOccurs⟩

/- No renamed line is a marker that gets renamed. -/
theorem lacksMarker_of_renamesMarker
    (hRenames : rule.RenamesMarker)
    (lines : Lines)
    (method : Method) :
    method.lacksMarker rule (lines.map rule.renamed) =
      true := by
  rcases hRenames with ⟨hNe, marker, hSome, hOccurs⟩
  have hRenamed :=
    (renamesMarker_iff hSome).mp
      ⟨hNe, marker, hSome, hOccurs⟩
  unfold Method.lacksMarker
  rw [Option.mem_def.mp hSome, Option.any_some,
    Bool.not_eq_true', Bool.eq_false_iff]
  intro hAbove
  have hLine := (Lines.hasMarkerAbove_iff.mp hAbove).2
  rw [Lines.get_map _ rule.renamed_nil, rule.trim_renamed]
    at hLine
  apply hRenamed
  rw [← hLine, rule.renamed_renamed]

/-
  A rule that renames its marker gives each method that it
  finds the second time another one.
-/
theorem markersInserted_again_of_renamesMarker
    (hRenames : rule.RenamesMarker)
    {work again : Work}
    {unbalanced left : List Nat}
    (hApply :
      rule.apply layout lines = .ok (work, unbalanced))
    (hAgain :
      rule.apply layout work.lines = .ok (again, left)) :
    again.counts.markersInserted =
      again.counts.methodsFound := by
  rcases apply_eq_ok hApply with ⟨_, rfl, _⟩
  rcases apply_eq_ok hAgain with ⟨hConflict, rfl, _⟩
  rw [markersInserted_rewrite hConflict,
    rule.methodsFound_rewrite, List.countP_eq_length]
  intro method hMethod
  cases hEmpty : (rule.survey layout lines).isEmpty with
  | true =>
      rw [rewrite_of_isEmpty hEmpty,
        (Survey.isEmpty_iff.mp hEmpty).1] at hMethod
      cases hMethod
  | false =>
      rw [(rewrite_of_found hEmpty).1, Lines.renameAll_fst]
      exact lacksMarker_of_renamesMarker hRenames _ method

end Rule

------------------------------------------------------------
-- Markers That Stay
------------------------------------------------------------

/-
  Whether each line that could declare a method, were it not
  for the white space in front of it, declares one.
-/
def Lines.Evident
    (rule : Rule)
    (lines : Lines) : Prop :=
  ∀ line ∈ lines,
    (Method.opener? rule (Text.trimLeft line)).isSome =
        true →
      (Method.opener? rule line).isSome = true

namespace Rule

variable {rule : Rule} {layout : Layout} {lines : Lines}
variable {marker : Line}

/- What a declaration is without a conflict. -/
theorem found_or_endless
    (hConflict :
      (rule.survey layout lines).conflict = none)
    {i : Nat}
    (hOpens : Lines.Opens rule lines i) :
    (∃ method ∈ (rule.survey layout lines).methods,
        method.start = i) ∨
      Block.close? lines i = none :=
  (opener_of_survey hConflict hOpens).imp_right
    fun hUnbalanced =>
      (opener_of_mem_unbalanced hUnbalanced).2

/- The block of a declaration holds no declaration then. -/
theorem not_opens_of_holds
    (hConflict :
      (rule.survey layout lines).conflict = none)
    {i j : Nat}
    (hOpens : Lines.Opens rule lines i)
    (hHolds : Lines.Holds lines i j) :
    ¬Lines.Opens rule lines j := by
  rcases hHolds with ⟨stop, hClose, hLess, hStop⟩
  rcases found_or_endless hConflict hOpens with
    ⟨method, hMethod, rfl⟩ | hNone
  · rw [(located_of_mem_survey hMethod).closes] at hClose
    cases hClose
    have hNone :=
      opener?_inside hConflict hMethod hLess hStop
    unfold Lines.Opens
    rw [hNone]
    exact Bool.false_ne_true
  · rw [hNone] at hClose
    cases hClose

/- Nor could one be made of a line by white space. -/
theorem vacant_of_evident
    (hEvident : lines.Evident rule)
    (hConflict :
      (rule.survey layout lines).conflict = none)
    {method : Method}
    (hMethod :
      method ∈ (rule.survey layout lines).methods) :
    Method.Vacant rule lines method.start method.stop := by
  intro i hStart hStop
  have hCloses := (located_of_mem_survey hMethod).closes
  have hLength :=
    hStop.trans_lt (Block.close?_lt_length hCloses)
  have hNone :=
    opener?_inside hConflict hMethod hStart hStop
  rw [← Option.not_isSome_iff_eq_none]
  intro hOpener
  have hShown :=
    hEvident _ (Lines.mem_of_lt_length hLength) hOpener
  rw [hNone] at hShown
  cases hShown

/- A rewrite leaves every declaration covered. -/
theorem tidy_rewrite
    (hClear : rule.Clear)
    (hSome : rule.marker = some marker)
    (hMarker : 0 ≤ Line.braceBalance marker)
    (hKept : rule.renamed marker = marker)
    (hUnit : Text.allBlank layout.unit = true)
    (hEvident : lines.Evident rule)
    (hConflict :
      (rule.survey layout lines).conflict = none) :
    Lines.Tidy rule marker
      (rule.rewrite layout (rule.survey layout lines)
        lines).lines
      0 := by
  cases hEmpty : (rule.survey layout lines).isEmpty with
  | true =>
      rw [rewrite_of_isEmpty hEmpty]
      intro i _ hOpens
      rcases found_or_endless hConflict hOpens with
        ⟨method, hMethod, _⟩ | hNone
      · rw [(Survey.isEmpty_iff.mp hEmpty).1] at hMethod
        cases hMethod
      · exact .endless hNone
  | false =>
      have hMethods :
          Lines.Tidy rule marker
            (Method.rewriteAll rule layout.reindent
              (rule.survey layout lines).methods lines).lines
            0 := by
        apply Method.tidy_rewriteAll hClear hSome hMarker
          hKept layout.reindent _ (survey_pairwise hConflict)
        · intro method hMethod
          have hLocated := located_of_mem_survey hMethod
          exact ⟨Method.Spans.of_located hLocated,
            hLocated.allBlank_indent,
            hLocated.allBlank_unit hUnit,
            vacant_of_evident hEvident hConflict hMethod⟩
        · exact fun method _ => Nat.zero_le method.start
        · exact fun i hi => absurd hi (Nat.succ_ne_zero i)
        · exact fun i _ hOpens =>
            found_or_endless hConflict hOpens
      have hGet :=
        Lines.get_map
          (Method.rewriteAll rule layout.reindent
            (rule.survey layout lines).methods lines).lines
          rule.renamed_nil
      rw [(rewrite_of_found hEmpty).1, Lines.renameAll_fst]
      apply Lines.Tidy.congr _ _ _ hMethods
      · intro j
        rw [hGet, rule.braceBalance_renamed]
      · intro j
        unfold Lines.Opens
        rw [hGet, Method.opener?_renamed hClear,
          Option.isSome_map]
      · intro j hTrim
        rw [hGet, rule.trim_renamed, hTrim, hKept]

/- A covered method that is found has a marker above it. -/
theorem hasMarkerAbove_of_tidy
    (hTidy : Lines.Tidy rule marker lines 0)
    (hConflict :
      (rule.survey layout lines).conflict = none)
    {method : Method}
    (hMethod :
      method ∈ (rule.survey layout lines).methods) :
    Lines.hasMarkerAbove lines method.start marker =
      true := by
  have hSpans :=
    Method.Spans.of_located (located_of_mem_survey hMethod)
  have hOpens := hSpans.opener
  cases hTidy method.start (Nat.zero_le _) hOpens with
  | marked hLess hAbove =>
      exact Lines.hasMarkerAbove_iff.mpr ⟨hLess, hAbove⟩
  | endless hNone =>
      rw [hSpans.closes] at hNone
      cases hNone
  | nested k _ hOther hHolds =>
      rcases hHolds with hInner | hOuter
      · exact absurd hOther
          (not_opens_of_holds hConflict hOpens hInner)
      · exact absurd hOpens
          (not_opens_of_holds hConflict hOther hOuter)

/-
  A rule that keeps its marker as it is finds it again, so
  that nothing is put in a second time.
-/
theorem markersInserted_again_of_not_renamesMarker
    (hKeeps : ¬rule.RenamesMarker)
    (hClear : rule.Clear)
    (hMarker : ∀ marker ∈ rule.marker,
      0 ≤ Line.braceBalance marker)
    (hUnit : Text.allBlank layout.unit = true)
    (hEvident : lines.Evident rule)
    {work again : Work}
    {unbalanced left : List Nat}
    (hApply :
      rule.apply layout lines = .ok (work, unbalanced))
    (hAgain :
      rule.apply layout work.lines = .ok (again, left)) :
    again.counts.markersInserted = 0 := by
  rcases apply_eq_ok hApply with ⟨hFirst, rfl, _⟩
  rcases apply_eq_ok hAgain with ⟨hSecond, rfl, _⟩
  rw [markersInserted_rewrite hSecond, List.countP_eq_zero]
  intro method hMethod
  unfold Method.lacksMarker
  cases hSome : rule.marker with
  | none => exact Bool.false_ne_true
  | some marker =>
      rw [renamesMarker_iff hSome, not_not] at hKeeps
      have hTidy :=
        tidy_rewrite hClear hSome (hMarker marker hSome)
          hKeeps hUnit hEvident hFirst
      rw [Option.any_some,
        hasMarkerAbove_of_tidy hTidy hSecond hMethod]
      exact Bool.false_ne_true

------------------------------------------------------------
-- Two Rewrites
------------------------------------------------------------

/-
  Let a template mention neither name of its rule, let no
  marker close more blocks than it opens, and let white space
  hide no declaration.  Then a second rewrite puts in no
  marker exactly if the rule keeps its marker as it is, or if
  no method is left to be found.
-/
theorem markersInserted_again_eq_zero_iff
    (rule : Rule)
    (layout : Layout)
    (lines : Lines)
    (hClear : rule.Clear)
    (hMarker : ∀ marker ∈ rule.marker,
      0 ≤ Line.braceBalance marker)
    (hUnit : Text.allBlank layout.unit = true)
    (hEvident : lines.Evident rule)
    {work again : Work}
    {unbalanced left : List Nat}
    (hApply :
      rule.apply layout lines = .ok (work, unbalanced))
    (hAgain :
      rule.apply layout work.lines = .ok (again, left)) :
    again.counts.markersInserted = 0 ↔
      ¬rule.RenamesMarker ∨
        again.counts.methodsFound = 0 := by
  by_cases hRenames : rule.RenamesMarker
  · rw [markersInserted_again_of_renamesMarker hRenames
      hApply hAgain]
    exact (or_iff_right (not_not_intro hRenames)).symm
  · exact iff_of_true
      (markersInserted_again_of_not_renamesMarker hRenames
        hClear hMarker hUnit hEvident hApply hAgain)
      (.inl hRenames)

/- A method that has its marker after the first rewrite. -/
theorem markersInserted_again_eq_zero_unwrapped :
    let layout : Layout :=
      { unit := "  ".toList, reindent := true }
    let lines : Lines :=
      ["void _generateQuestion() \x7b".toList,
        "  a();".toList,
        "\x7d".toList]
    standard.Clear ∧
      (∀ marker ∈ standard.marker,
        0 ≤ Line.braceBalance marker) ∧
      Text.allBlank layout.unit = true ∧
      lines.Evident standard ∧
      ∃ work again unbalanced left,
        standard.apply layout lines =
            .ok (work, unbalanced) ∧
          standard.apply layout work.lines =
            .ok (again, left) ∧
          (again.counts.markersInserted = 0 ↔
            ¬standard.RenamesMarker ∨
              again.counts.methodsFound = 0) := by
  intro layout lines
  have hClear := plain_standard.clear
  have hMarker : ∀ marker ∈ standard.marker,
      0 ≤ Line.braceBalance marker := by
    decide
  have hUnit : Text.allBlank layout.unit = true := rfl
  have hEvident : lines.Evident standard := by
    unfold Lines.Evident
    decide +kernel
  have hFirst :
      (standard.survey layout lines).conflict = none := rfl
  have hApply := apply_of_conflict_eq_none hFirst
  have hOnce :
      (standard.rewrite layout (standard.survey layout lines)
        lines).lines =
        ["@override".toList,
          "void generateNewQuestion() \x7b".toList,
          "  setState(() \x7b".toList,
          "    a();".toList,
          "  \x7d);".toList,
          "\x7d".toList] := by
    decide +kernel
  have hSecond :
      (standard.survey layout
        (standard.rewrite layout
          (standard.survey layout lines)
          lines).lines).conflict = none := by
    rw [hOnce]
    rfl
  have hAgain := apply_of_conflict_eq_none hSecond
  exact ⟨hClear, hMarker, hUnit, hEvident, _, _, _, _,
    hApply, hAgain,
    markersInserted_again_eq_zero_iff standard layout lines
      hClear hMarker hUnit hEvident hApply hAgain⟩

/-
  A marker with the old name is renamed as soon as it is put
  in, and so the second rewrite puts in another one.
-/
theorem markersInserted_again_ne_zero :
    let rule : Rule :=
      { standard with
        marker := some "// was _generateQuestion".toList
        marker_trim := by decide }
    let spec : RuleSpec :=
      { RuleSpec.builtIn with marker := rule.marker }
    let layout : Layout :=
      { unit := "  ".toList, reindent := true }
    let lines : Lines :=
      ["void _generateQuestion() \x7b".toList,
        "  a();".toList,
        "\x7d".toList]
    spec.check = .ok rule ∧
      ∃ work again unbalanced left,
        rule.apply layout lines = .ok (work, unbalanced) ∧
          rule.apply layout work.lines = .ok (again, left) ∧
          again.counts.markersInserted ≠ 0 := by
  intro rule spec layout lines
  have hFirst :
      (rule.survey layout lines).conflict = none := rfl
  have hOnce :
      (rule.rewrite layout (rule.survey layout lines)
        lines).lines =
        ["// was generateNewQuestion".toList,
          "void generateNewQuestion() \x7b".toList,
          "  setState(() \x7b".toList,
          "    a();".toList,
          "  \x7d);".toList,
          "\x7d".toList] := by
    decide +kernel
  have hSecond :
      (rule.survey layout
        (rule.rewrite layout (rule.survey layout lines)
          lines).lines).conflict = none := by
    rw [hOnce]
    rfl
  refine ⟨rfl, _, _, _, _,
    apply_of_conflict_eq_none hFirst,
    apply_of_conflict_eq_none hSecond, ?_⟩
  rw [hOnce]
  decide +kernel

end Rule

end NotifyScope
