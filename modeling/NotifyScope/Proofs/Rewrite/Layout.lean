import Mathlib.Data.List.Forall2
import NotifyScope.Proofs.Lines.Aligned
import NotifyScope.Proofs.Method.Frame
import NotifyScope.Proofs.Rewrite.UserLines
import NotifyScope.Proofs.Rule.Standard

/-
  Rewrites of the same lines in two layouts.  All that the
  layouts decide is white space in front of lines, so both
  rewrites find the same methods in the same states, take the
  same steps, and end with lines that agree once they are
  trimmed.

  Key definitions include:
    * `Method.Lockstep`
    * `Method.Twins`
    * `Work.Agrees`
    * `Rule.outline`

  Main declarations:
    * `Repair.agrees_settle`
    * `Method.agrees_rewriteAll`
    * `Rule.outline_apply`
-/

------------------------------------------------------------
-- Lockstep
------------------------------------------------------------

namespace NotifyScope

open Lines (Aligned)

namespace Method

/-
  Two rewrites at the same declaration: their lines agree once
  trimmed, and on the declaration line even without.  That one
  has to be the same, since a line may declare a method only
  for the kind of white space in front of it.
-/
structure Lockstep
    (rule : Rule)
    (start : Nat)
    (left right : Lines) : Prop where
  aligned : Aligned left right
  same : Lines.get right start = Lines.get left start
  opener : (opener? rule (Lines.get left start)).isSome = true

variable {rule : Rule}
variable {start stop : Nat}
variable {left right : Lines}

theorem Lockstep.symm
    (hStep : Lockstep rule start left right) :
    Lockstep rule start right left :=
  ⟨hStep.aligned.symm, hStep.same.symm,
    hStep.same ▸ hStep.opener⟩

/- Edits behind the declaration keep the lockstep. -/
theorem Lockstep.of_aligned
    {next other : Lines}
    (hStep : Lockstep rule start left right)
    (hAligned : Aligned next other)
    (hLeft : Lines.get next start = Lines.get left start)
    (hRight :
      Lines.get other start = Lines.get right start) :
    Lockstep rule start next other := by
  refine ⟨hAligned, ?_, ?_⟩
  · rw [hLeft, hRight]
    exact hStep.same
  · rw [hLeft]
    exact hStep.opener

theorem Lockstep.spans
    (hStep : Lockstep rule start left right)
    (hClose : Block.close? left start = some stop) :
    Spans rule left start stop ∧
      Spans rule right start stop := by
  refine ⟨⟨hClose, hStep.opener⟩, ?_, hStep.symm.opener⟩
  rw [← hStep.aligned.close?_eq]
  exact hClose

end Method

------------------------------------------------------------
-- Repairs
------------------------------------------------------------

namespace Repair

open Method (Lockstep)

variable {rule : Rule}
variable {start : Nat}
variable {left right : Lines}

/- Both lists lose the same wrapper. -/
theorem exists_collapse?
    {next : Lines}
    (hStep : Lockstep rule start left right)
    (hCollapse : collapse? rule start left = some next) :
    ∃ other, collapse? rule start right = some other ∧
      Lockstep rule start next other := by
  have hAligned := hStep.aligned
  rcases collapse?_eq_some_iff.mp hCollapse with
    ⟨stop, first, pair, hClose, hFirst, hLess, hPair,
      hOuter, rfl⟩
  rw [hAligned.close?_eq] at hClose
  rw [hAligned.nextFilled?_eq] at hFirst
  rw [hAligned.stackedAt?_eq] at hPair
  have hOther :
      collapse? rule start right =
        some (collapsed right first pair) :=
    collapse?_eq_some_iff.mpr
      ⟨stop, first, pair, hClose, hFirst, hLess, hPair,
        hOuter, rfl⟩
  have hOutdent :=
    (Lines.aligned_outdent left first pair.innerOpen
        pair.innerClose).trans
      (hAligned.trans
        (Lines.aligned_outdent right first pair.innerOpen
          pair.innerClose).symm)
  exact ⟨_, hOther,
    hStep.of_aligned ((hOutdent.eraseIdx _).eraseIdx _)
      (get_of_collapse? le_rfl hCollapse)
      (get_of_collapse? le_rfl hOther)⟩

theorem collapse?_eq_none_of_lockstep
    (hStep : Lockstep rule start left right)
    (hNone : collapse? rule start left = none) :
    collapse? rule start right = none := by
  cases hRight : collapse? rule start right with
  | none => rfl
  | some next =>
      rcases exists_collapse? hStep.symm hRight with
        ⟨other, hLeft, _⟩
      rw [hNone] at hLeft
      cases hLeft

/- Both lose the same closing line. -/
theorem exists_dropSurplus?
    {next : Lines}
    (hStep : Lockstep rule start left right)
    (hDrop : dropSurplus? rule start left = some next) :
    ∃ other, dropSurplus? rule start right = some other ∧
      Lockstep rule start next other := by
  have hAligned := hStep.aligned
  rcases dropSurplus?_eq_some_iff.mp hDrop with
    ⟨stop, last, hClose, hLast, hSurplus, rfl⟩
  rcases hStep.spans hClose with ⟨hLeft, hRight⟩
  rw [Wrapper.surplusClose?_eq hLeft hLast] at hSurplus
  rw [hAligned.lastFilled?_eq] at hLast
  rw [(hAligned.alike_get rule last).closes,
    (hAligned.alike_get rule stop).closes,
    hAligned.closesAnnotated_get rule last,
    hAligned.closesAnnotated_get rule stop,
    ← Wrapper.surplusClose?_eq hRight hLast] at hSurplus
  have hOther :
      dropSurplus? rule start right =
        some (right.eraseIdx stop) :=
    dropSurplus?_eq_some_iff.mpr
      ⟨stop, last, hRight.closes, hLast, hSurplus, rfl⟩
  exact ⟨_, hOther,
    hStep.of_aligned (hAligned.eraseIdx stop)
      (get_of_dropSurplus? le_rfl hDrop)
      (get_of_dropSurplus? le_rfl hOther)⟩

theorem dropSurplus?_eq_none_of_lockstep
    (hStep : Lockstep rule start left right)
    (hNone : dropSurplus? rule start left = none) :
    dropSurplus? rule start right = none := by
  cases hRight : dropSurplus? rule start right with
  | none => rfl
  | some next =>
      rcases exists_dropSurplus? hStep.symm hRight with
        ⟨other, hLeft, _⟩
      rw [hNone] at hLeft
      cases hLeft

/-
  Both repairs take the same steps.  The induction follows
  those of the first, and the lockstep tells that the second
  has the same step to take.
-/
theorem agrees_settle
    (hStep : Lockstep rule start left right) :
    Lockstep rule start (settle rule start left).1
        (settle rule start right).1 ∧
      (settle rule start left).2 =
        (settle rule start right).2 := by
  revert right
  apply settle_induction (motive := fun lines result =>
    ∀ {other : Lines}, Lockstep rule start lines other →
      Lockstep rule start result.1
          (settle rule start other).1 ∧
        result.2 = (settle rule start other).2)
  · intro lines next hCollapse hNext other hStep
    rcases exists_collapse? hStep hCollapse with
      ⟨after, hOther, hAfter⟩
    rw [settle_of_collapse hOther]
    rcases hNext hAfter with ⟨hLines, hReport⟩
    exact ⟨hLines, by rw [hReport]⟩
  · intro lines next hNone hDrop hNext other hStep
    rcases exists_dropSurplus? hStep hDrop with
      ⟨after, hOther, hAfter⟩
    rw [settle_of_dropSurplus
      (collapse?_eq_none_of_lockstep hStep hNone) hOther]
    rcases hNext hAfter with ⟨hLines, hReport⟩
    exact ⟨hLines, by rw [hReport]⟩
  · intro lines hCollapse hDrop other hStep
    rw [settle_of_none
      (collapse?_eq_none_of_lockstep hStep hCollapse)
      (dropSurplus?_eq_none_of_lockstep hStep hDrop)]
    exact ⟨hStep, rfl⟩

/- Both lose the same annotations. -/
theorem agrees_normalize
    (rule : Rule)
    (start : Nat)
    (hAligned : Aligned left right) :
    Aligned (normalize rule start left).1
        (normalize rule start right).1 ∧
      (normalize rule start left).2 =
        (normalize rule start right).2 := by
  unfold normalize
  rw [hAligned.close?_eq]
  cases Block.close? right start with
  | none => exact ⟨hAligned, rfl⟩
  | some stop =>
      simp only
      constructor
      · apply hAligned.mapIdx
        intro i line other hTrim
        simp only [Rule.closesAnnotated_congr hTrim]
        split
        · rw [Text.trim_append_left _
              (Text.allBlank_leading _),
            Text.trim_append_left _
              (Text.allBlank_leading _)]
        · exact hTrim
      · apply hAligned.length_filter_zipIdx
        intro i line other hTrim
        simp only [Rule.closesAnnotated_congr hTrim]

end Repair

------------------------------------------------------------
-- Methods
------------------------------------------------------------

/- Work in two layouts that comes to the same. -/
structure Work.Agrees
    (left right : Work) : Prop where
  lines : Aligned left.lines right.lines
  counts : left.counts = right.counts

namespace Method

/- Methods that only differ in how bodies are indented. -/
structure Twins
    (left right : Method) : Prop where
  start : left.start = right.start
  stop : left.stop = right.stop
  indent : left.indent = right.indent
  allBlank_indent : Text.allBlank left.indent = true
  allBlank_unit : Text.allBlank left.unit = true
  allBlank_other : Text.allBlank right.unit = true

variable {rule : Rule}
variable {method other : Method}
variable {left right : Lines}

/- Wrapping moves lines in by white space only. -/
theorem aligned_wrap
    (reindent shifted : Bool)
    (hTwins : Twins method other)
    (hAligned : Aligned left right) :
    Aligned (method.wrap rule reindent left).1
      (other.wrap rule shifted right).1 := by
  have hBody : ∀ (unit : Text) (moved : Bool)
      (lines : Lines),
      Text.allBlank unit = true →
      Aligned
        (if moved then
          lines.map (Line.shift unit)
        else
          lines)
        lines := by
    intro unit moved lines hUnit
    split
    · exact Lines.aligned_shift lines hUnit
    · exact .refl lines
  have hInterior :
      Aligned (method.interior left)
        (other.interior right) := by
    unfold interior
    rw [hTwins.start, hTwins.stop]
    exact (hAligned.drop _).take _
  have hLead : ∀ line : Line,
      Text.trim (method.indent ++ method.unit ++ line) =
        Text.trim (other.indent ++ other.unit ++ line) := by
    intro line
    rw [← hTwins.indent]
    simp only [List.append_assoc,
      Text.trim_append_left _ hTwins.allBlank_indent,
      Text.trim_append_left _ hTwins.allBlank_unit,
      Text.trim_append_left _ hTwins.allBlank_other]
  unfold wrap
  simp only [List.append_assoc, List.cons_append]
  rw [hTwins.start, hTwins.stop]
  refine (hAligned.take _).append (.cons ?_ (.append ?_
    (.cons ?_ (hAligned.drop _))))
  · simpa only [List.append_assoc] using
      hLead rule.wrapOpen
  · exact (hBody _ _ _ hTwins.allBlank_unit).trans
      (hInterior.trans
        (hBody _ _ _ hTwins.allBlank_other).symm)
  · simpa only [List.append_assoc] using
      hLead rule.wrapClose

/- Bodies that agree are in the same state. -/
theorem bodyState_eq_of_lockstep
    (hTwins : Twins method other)
    (hStep : Lockstep rule method.start left right)
    (hClose :
      Block.close? left method.start = some method.stop) :
    method.bodyState rule left =
      other.bodyState rule right := by
  rcases hStep.spans hClose with ⟨hLeft, hRight⟩
  rw [hTwins.start, hTwins.stop] at hRight
  have hLess := hLeft.lt
  apply bodyState_window (s := method.stop - method.start)
  · rw [← hTwins.start]
    exact hStep.aligned.window rule _ _
  · rw [← hTwins.start]
    exact fun i _ =>
      hStep.aligned.closesAnnotated_get rule _
  · omega
  · rw [← hTwins.start, ← hTwins.stop]
    omega
  · exact hLeft
  · exact hRight

theorem agrees_rewriteBody
    (reindent shifted : Bool)
    (hTwins : Twins method other)
    (hStep : Lockstep rule method.start left right)
    (hClose :
      Block.close? left method.start = some method.stop) :
    (method.rewriteBody rule reindent left).Agrees
      (other.rewriteBody rule shifted right) := by
  have hSettled := Repair.agrees_settle hStep
  have hNormal :=
    Repair.agrees_normalize rule method.start
      hSettled.1.aligned
  have hLines :
      Aligned (method.repair rule left).1
        (other.repair rule right).1 := by
    unfold repair
    rw [← hTwins.start]
    exact hNormal.1
  have hReport :
      (method.repair rule left).2 =
        (other.repair rule right).2 := by
    unfold repair
    rw [← hTwins.start]
    simp only
    rw [hSettled.2, hNormal.2]
  unfold rewriteBody
  rw [← bodyState_eq_of_lockstep hTwins hStep hClose]
  cases method.bodyState rule left with
  | unwrapped =>
      exact ⟨aligned_wrap reindent shifted hTwins
        hStep.aligned, rfl⟩
  | canonical => exact ⟨hStep.aligned, rfl⟩
  | legacy =>
      exact ⟨hLines, congrArg Counts.ofRepair hReport⟩
  | doubled =>
      exact ⟨hLines, congrArg Counts.ofRepair hReport⟩

/- The same declaration gets the same name and marker. -/
theorem agrees_renameDeclaration
    (hTwins : Twins method other)
    (hStep : Lockstep rule method.start left right) :
    Aligned (method.renameDeclaration rule left).1
        (other.renameDeclaration rule right).1 ∧
      (method.renameDeclaration rule left).2 =
        (other.renameDeclaration rule right).2 := by
  have hSet :
      Aligned
        (left.set method.start
          (rule.renameLine
            (Lines.get left method.start)).1)
        (right.set method.start
          (rule.renameLine
            (Lines.get left method.start)).1) :=
    hStep.aligned.set rfl _
  unfold renameDeclaration
  rw [← hTwins.start, hStep.same, ← hTwins.indent]
  cases rule.marker with
  | none => exact ⟨hSet, rfl⟩
  | some marker =>
      simp only
      unfold Lines.insertMarker
      rw [hSet.hasMarkerAbove_eq]
      split
      · exact ⟨hSet, rfl⟩
      · exact ⟨hSet.insertIdx rfl _, rfl⟩

theorem agrees_rewrite
    (reindent shifted : Bool)
    (hTwins : Twins method other)
    (hStep : Lockstep rule method.start left right)
    (hClose :
      Block.close? left method.start = some method.stop) :
    (method.rewrite rule reindent left).Agrees
      (other.rewrite rule shifted right) := by
  have hBody :=
    agrees_rewriteBody reindent shifted hTwins hStep hClose
  have hLength : ∀ {lines : Lines},
      Block.close? lines method.start = some method.stop →
      method.start < lines.length :=
    fun hOwn =>
      (Block.lt_close? hOwn).trans
        (Block.close?_lt_length hOwn)
  have hOther :
      method.start < right.length :=
    hLength (hStep.spans hClose).2.closes
  have hNext :
      Lockstep rule method.start
        (method.rewriteBody rule reindent left).lines
        (other.rewriteBody rule shifted right).lines := by
    apply hStep.of_aligned hBody.lines
    · exact get_rewriteBody_of_le reindent (hLength hClose)
        le_rfl
    · rw [hTwins.start] at hOther ⊢
      exact get_rewriteBody_of_le shifted hOther le_rfl
  have hName := agrees_renameDeclaration hTwins hNext
  unfold rewrite
  exact ⟨hName.1, by
    simp only
    rw [hBody.counts, hName.2]⟩

/-
  The methods are rewritten from the last to the first, each
  in lines that hold its declaration as it was found.  So the
  rewrites are in lockstep at every one of them.
-/
theorem agrees_rewriteAll
    (reindent shifted : Bool)
    {lines : Lines}
    {methods others : List Method}
    (hTwins : List.Forall₂ Twins methods others)
    (hOrder : methods.Pairwise fun earlier later =>
      earlier.stop < later.start)
    (hOthers : others.Pairwise fun earlier later =>
      earlier.stop < later.start)
    (hSpans : ∀ method ∈ methods,
      Spans rule lines method.start method.stop)
    (hOtherSpans : ∀ other ∈ others,
      Spans rule lines other.start other.stop) :
    (rewriteAll rule reindent methods lines).Agrees
      (rewriteAll rule shifted others lines) := by
  induction hTwins with
  | nil => exact ⟨.refl lines, rfl⟩
  | @cons method other methods others hTwin _ ih =>
      rcases List.forall_mem_cons.mp hSpans with
        ⟨hOwn, hRest⟩
      rcases List.forall_mem_cons.mp hOtherSpans with
        ⟨_, hOtherRest⟩
      have hAgrees :=
        ih (List.pairwise_cons.mp hOrder).2
          (List.pairwise_cons.mp hOthers).2 hRest hOtherRest
      have hLeft : ∀ i, i ≤ method.stop →
          Lines.get
              (rewriteAll rule reindent methods lines).lines
              i =
            Lines.get lines i :=
        fun i hi =>
          get_rewriteAll_of_le reindent hOrder hRest hi
      have hRight :
          Lines.get
              (rewriteAll rule shifted others lines).lines
              method.start =
            Lines.get lines method.start := by
        apply get_rewriteAll_of_le shifted hOthers hOtherRest
        rw [← hTwin.stop]
        exact hOwn.lt.le
      have hMoved := hOwn.of_get_eq hLeft
      have hStep :
          Lockstep rule method.start
            (rewriteAll rule reindent methods lines).lines
            (rewriteAll rule shifted others lines).lines :=
        ⟨hAgrees.lines,
          hRight.trans (hLeft _ hOwn.lt.le).symm,
          hMoved.opener⟩
      have hNext :=
        agrees_rewrite reindent shifted hTwin hStep
          hMoved.closes
      exact ⟨hNext.lines,
        congrArg₂ (· + ·) hAgrees.counts hNext.counts⟩

end Method

------------------------------------------------------------
-- Surveys
------------------------------------------------------------

/- Findings about the same line in two layouts. -/
inductive Method.TwinFindings :
    Except LocateError Method →
      Except LocateError Method → Prop where
  | method
      {left right : Method}
      (hTwins : Twins left right) :
      TwinFindings (.ok left) (.ok right)
  | failure
      (failure : LocateError) :
      TwinFindings (.error failure) (.error failure)

/- Surveys that only differ in how bodies are indented. -/
structure Survey.Twins
    (left right : Survey) : Prop where
  methods :
    List.Forall₂ Method.Twins left.methods right.methods
  unbalanced : left.unbalanced = right.unbalanced
  conflict : left.conflict = right.conflict

theorem Survey.Twins.isEmpty_eq
    {left right : Survey}
    (hTwins : left.Twins right) :
    left.isEmpty = right.isEmpty := by
  have hMethods :
      left.methods.isEmpty = right.methods.isEmpty := by
    rw [Bool.eq_iff_iff, List.isEmpty_iff_length_eq_zero,
      List.isEmpty_iff_length_eq_zero,
      hTwins.methods.length_eq]
  unfold isEmpty
  rw [hMethods, hTwins.unbalanced]

/- The unit of indentation decides nothing in a search. -/
theorem Method.twins_scan
    (rule : Rule)
    {unit other : Text}
    (hUnit : Text.allBlank unit = true)
    (hOther : Text.allBlank other = true)
    (i : Nat)
    (body : Option (Nat × Nat))
    (lines : Lines) :
    List.Forall₂ TwinFindings (scan rule unit i body lines)
      (scan rule other i body lines) := by
  induction lines generalizing i body with
  | nil => exact .nil
  | cons line rest ih =>
      simp only [scan]
      cases opener? rule line with
      | none => exact ih _ _
      | some name =>
          cases enclosing? i body with
          | some start => exact .cons (.failure _) (ih _ _)
          | none =>
              cases Block.closeOffset? 1 rest with
              | none => exact .cons (.failure _) (ih _ _)
              | some k =>
                  refine .cons (.method ?_) (ih _ _)
                  exact
                    { start := rfl
                      stop := rfl
                      indent := rfl
                      allBlank_indent :=
                        Text.allBlank_leading line
                      allBlank_unit :=
                        allBlank_getD_inferUnit? _ _ hUnit
                      allBlank_other :=
                        allBlank_getD_inferUnit? _ _
                          hOther }

theorem Survey.twins_ofFound
    {left right : List (Except LocateError Method)}
    (hFound : List.Forall₂ Method.TwinFindings left right) :
    Twins (ofFound left) (ofFound right) := by
  induction hFound with
  | nil => exact ⟨.nil, rfl, rfl⟩
  | cons hFirst _ ih =>
      cases hFirst with
      | method hTwins =>
          exact ⟨.cons hTwins ih.methods, ih.unbalanced,
            ih.conflict⟩
      | failure failure =>
          cases failure with
          | unbalanced start =>
              exact ⟨ih.methods,
                congrArg (start :: ·) ih.unbalanced,
                ih.conflict⟩
          | nested line enclosing => exact ⟨.nil, rfl, rfl⟩

------------------------------------------------------------
-- A Whole Rule
------------------------------------------------------------

namespace Rule

variable {rule : Rule}
variable {left right : Layout}
variable {lines : Lines}

theorem agrees_renameAll
    (rule : Rule)
    {lines others : Lines}
    (hAligned : Aligned lines others) :
    Aligned (Lines.renameAll rule lines).1
        (Lines.renameAll rule others).1 ∧
      (Lines.renameAll rule lines).2 =
        (Lines.renameAll rule others).2 := by
  rw [Lines.renameAll_fst, Lines.renameAll_fst]
  constructor
  · apply hAligned.map
    intro line other hTrim
    rw [rule.trim_renamed, rule.trim_renamed, hTrim]
  · have hTrimmed : ∀ lines : Lines,
        (Lines.renameAll rule lines).2 =
          (Lines.renameAll rule (lines.map Text.trim)).2 := by
      intro lines
      unfold Lines.renameAll
      induction lines with
      | nil => rfl
      | cons line lines ih =>
          simp only [List.map_cons, List.foldr_cons] at ih ⊢
          rw [ih, rule.renameLine_count_trim]
    rw [hTrimmed lines, hTrimmed others, hAligned]

theorem twins_survey
    (rule : Rule)
    (lines : Lines)
    (hLeft : Text.allBlank left.unit = true)
    (hRight : Text.allBlank right.unit = true) :
    (rule.survey left lines).Twins
      (rule.survey right lines) :=
  Survey.twins_ofFound
    (Method.twins_scan rule hLeft hRight 0 none lines)

theorem agrees_rewrite
    (hTwins :
      (rule.survey left lines).Twins
        (rule.survey right lines))
    (hConflict :
      (rule.survey left lines).conflict = none) :
    (rule.rewrite left (rule.survey left lines)
        lines).Agrees
      (rule.rewrite right (rule.survey right lines)
        lines) := by
  have hSpans : ∀ layout : Layout,
      ∀ method ∈ (rule.survey layout lines).methods,
        Method.Spans rule lines method.start method.stop :=
    fun _ _ hMethod =>
      .of_located (located_of_mem_survey hMethod)
  have hAll :=
    Method.agrees_rewriteAll left.reindent right.reindent
      hTwins.methods (survey_pairwise hConflict)
      (survey_pairwise (hTwins.conflict ▸ hConflict))
      (hSpans left) (hSpans right)
  have hRenamed := rule.agrees_renameAll hAll.lines
  unfold rewrite
  rw [hTwins.isEmpty_eq]
  split
  · exact ⟨.refl lines, rfl⟩
  · refine ⟨hRenamed.1, ?_⟩
    simp only
    rw [hTwins.methods.length_eq, hTwins.unbalanced,
      hRenamed.2, hAll.counts]

/-
  What is left of a result without the white space around its
  lines and without the account of single edits.
-/
def outline
    (result : Except LocateError (Work × List Nat)) :
    Except LocateError (Lines × Counts × List Nat) :=
  result.map fun (work, unbalanced) =>
    (work.lines.map Text.trim, work.counts, unbalanced)

/-
  A layout changes the white space in front of lines and
  nothing else: in any two layouts a rule fails for the same
  reason, or finds the same declarations without an end, gets
  to the same counts, and ends with as many lines, each the
  same once trimmed.
-/
theorem outline_apply
    (rule : Rule)
    (left right : Layout)
    (lines : Lines)
    (hLeft : Text.allBlank left.unit = true)
    (hRight : Text.allBlank right.unit = true) :
    outline (rule.apply left lines) =
      outline (rule.apply right lines) := by
  have hTwins :=
    rule.twins_survey lines hLeft hRight
  cases hConflict : (rule.survey left lines).conflict with
  | some conflict =>
      unfold apply
      simp only [hConflict, ← hTwins.conflict]
  | none =>
      have hAgrees := agrees_rewrite hTwins hConflict
      rw [apply_of_conflict_eq_none hConflict,
        apply_of_conflict_eq_none
          (hTwins.conflict ▸ hConflict)]
      unfold outline
      simp only [Except.map]
      rw [hAgrees.lines, hAgrees.counts, hTwins.unbalanced]

/-
  A body at the level of its declaration shows no unit of its
  own, so that the two results do differ.
-/
theorem outline_apply_unwrapped :
    let left : Layout :=
      { unit := "  ".toList, reindent := true }
    let right : Layout :=
      { unit := "\t".toList, reindent := false }
    let lines : Lines :=
      ["void _generateQuestion() \x7b".toList,
        "a();".toList,
        "\x7d".toList]
    Text.allBlank left.unit = true ∧
      Text.allBlank right.unit = true ∧
      (standard.rewrite left (standard.survey left lines)
          lines).lines ≠
        (standard.rewrite right
          (standard.survey right lines) lines).lines ∧
      outline (standard.apply left lines) =
        outline (standard.apply right lines) := by
  intro left right lines
  have hLeft : Text.allBlank left.unit = true := rfl
  have hRight : Text.allBlank right.unit = true := rfl
  refine ⟨hLeft, hRight, ?_,
    outline_apply standard left right lines hLeft hRight⟩
  decide +kernel

end Rule

end NotifyScope
