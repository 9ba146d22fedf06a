import NotifyScope.Proofs.Method.Relocated
import NotifyScope.Proofs.Method.Stable

/-
  Wrappers put around wrappers.  Where all indentation is made
  of spaces, each new wrapper is found with the unit that it
  was written with, and a collapse takes back just what one
  wrapping did: the lines moved in are moved back by as much,
  and the outer wrapper stands where the inner one stood.  So
  a repair leaves one wrapper of any number of them, and the
  lines are those of a method that was wrapped once.

  Key definitions include:
    * `Text.Spaces`
    * `Lines.Indented`
    * `Lines.layer`
    * `Method.wrapTimes?`

  Main declarations:
    * `Line.outdent_shift_shift`
    * `Repair.collapse?_layer_layer`
    * `Repair.settle_layers`
    * `Method.repair_wrapTimes?`
-/

------------------------------------------------------------
-- Spaces
------------------------------------------------------------

namespace NotifyScope

namespace Text

/- A text of spaces only. -/
def Spaces
    (text : Text) : Prop :=
  ∀ c ∈ text, c = ' '

namespace Spaces

variable {text left right : Text}

theorem allBlank
    (hSpaces : Spaces text) :
    Text.allBlank text = true := by
  unfold Text.allBlank
  rw [List.all_eq_true]
  intro c hc
  rw [hSpaces c hc]
  decide

theorem append
    (hLeft : Spaces left)
    (hRight : Spaces right) :
    Spaces (left ++ right) := by
  intro c hc
  exact (List.mem_append.mp hc).elim (hLeft c) (hRight c)

/- The same spaces, or none at all. -/
theorem of_eq_or_nil
    (hSpaces : Spaces text)
    (hText : left = text ∨ left = []) :
    Spaces left := by
  rcases hText with rfl | rfl
  · exact hSpaces
  · intro c hc
    cases hc

/- Spaces are put together in any order. -/
theorem append_comm
    (hLeft : Spaces left)
    (hRight : Spaces right) :
    left ++ right = right ++ left := by
  rw [List.eq_replicate_of_mem (hLeft.append hRight),
    List.eq_replicate_of_mem (hRight.append hLeft),
    List.length_append, List.length_append, Nat.add_comm]

end Spaces

end Text

------------------------------------------------------------
-- Indented Lines
------------------------------------------------------------

namespace Lines

/-
  Lines that are empty or start with an indentation, with no
  white space on the empty ones.
-/
structure Indented
    (indent : Text)
    (lines : Lines) : Prop where
  starts : ∀ line ∈ lines, Text.allBlank line = false →
    indent <+: line
  empty : ∀ line ∈ lines, Text.allBlank line = true →
    line = []

end Lines

namespace Line

@[simp] theorem shift_nil
    (line : Line) :
    shift [] line = line := by
  unfold shift
  split <;> rfl

theorem allBlank_shift
    {unit : Text}
    (line : Line)
    (hUnit : Text.allBlank unit = true) :
    Text.allBlank (shift unit line) =
      Text.allBlank line := by
  unfold shift
  split
  · rfl
  · rw [Text.allBlank_append, hUnit, Bool.true_and]

theorem shift_of_filled
    (unit : Text)
    {line : Line}
    (hLine : Text.allBlank line = false) :
    shift unit line = unit ++ line := by
  unfold shift
  rw [hLine, if_neg Bool.false_ne_true]

/- A line moved back to where it is stays there. -/
theorem outdent_self
    (lead : Text)
    (line : Line) :
    outdent lead lead line = line := by
  unfold outdent
  split
  · rename_i hPrefix
    rw [List.isPrefixOf_iff_prefix] at hPrefix
    rcases hPrefix with ⟨tail, rfl⟩
    rw [List.drop_left]
  · rfl

/- An empty line is not moved back. -/
theorem outdent_nil
    (outer : Text)
    {inner : Text}
    (hInner : inner ≠ []) :
    outdent outer inner [] = [] := by
  cases inner with
  | nil => exact absurd rfl hInner
  | cons c rest => rfl

/-
  A line that was moved in twice and is moved back once is as
  it was when it had been moved in once.  The white space that
  is taken out is not the one that was put in last, but there
  is no telling spaces apart.
-/
theorem outdent_shift_shift
    {indent unit : Text}
    {line : Line}
    (hIndent : indent.Spaces)
    (hUnit : unit.Spaces)
    (hNe : unit ≠ [])
    (hStarts : Text.allBlank line = false → indent <+: line)
    (hEmpty : Text.allBlank line = true → line = []) :
    outdent (indent ++ unit) (unit ++ (indent ++ unit))
        (shift unit (shift unit line)) =
      shift unit line := by
  cases hBlank : Text.allBlank line with
  | true =>
      rw [hEmpty hBlank]
      exact outdent_nil _ (by simp [hNe])
  | false =>
      rcases hStarts hBlank with ⟨tail, hLine⟩
      have hMoved :
          Text.allBlank (unit ++ line) = false := by
        rw [Text.allBlank_append, hBlank, Bool.and_false]
      have hTwice :
          unit ++ (unit ++ line) =
            (unit ++ (indent ++ unit)) ++ tail := by
        rw [← hLine, hIndent.append_comm hUnit]
        simp only [List.append_assoc]
      have hOnce :
          unit ++ line = (indent ++ unit) ++ tail := by
        rw [← hLine, hIndent.append_comm hUnit]
        simp only [List.append_assoc]
      rw [shift_of_filled unit hBlank,
        shift_of_filled unit hMoved, hTwice]
      unfold outdent
      rw [if_pos (by
        rw [List.isPrefixOf_iff_prefix]
        exact List.prefix_append _ _), List.drop_left, hOnce]

end Line

------------------------------------------------------------
-- Layers
------------------------------------------------------------

namespace Lines

/-
  Lines in a wrapper that has some white space in front, with
  more of it put in front of the lines inside.
-/
def layer
    (rule : Rule)
    (lead more : Text)
    (lines : Lines) : Lines :=
  (lead ++ rule.wrapOpen) ::
    (lines.map (Line.shift more) ++ [lead ++ rule.wrapClose])

variable {rule : Rule}
variable {lead more indent unit : Text}
variable {lines : Lines}

theorem mem_layer
    {line : Line} :
    line ∈ layer rule lead more lines ↔
      line = lead ++ rule.wrapOpen ∨
        (∃ other ∈ lines, Line.shift more other = line) ∨
        line = lead ++ rule.wrapClose := by
  unfold layer
  simp only [List.mem_cons, List.mem_append, List.mem_map,
    List.not_mem_nil, or_false]

/- Two layers, line by line. -/
theorem layer_layer
    (hLead : Text.allBlank lead = true) :
    layer rule lead more (layer rule lead more lines) =
      (lead ++ rule.wrapOpen) ::
        (more ++ lead ++ rule.wrapOpen) ::
          ((lines.map (Line.shift more)).map
              (Line.shift more) ++
            (more ++ lead ++ rule.wrapClose) ::
              [lead ++ rule.wrapClose]) := by
  have hOpening := Rule.allBlank_of_opensWrapper
    (rule.opensWrapper_append hLead)
  have hClosing := Rule.allBlank_of_closesEither
    (Rule.closesEither_of_closesWrapper
      (rule.closesWrapper_append hLead))
  unfold layer
  rw [List.map_cons, List.map_append, List.map_cons,
    List.map_nil, Line.shift_of_filled more hOpening,
    Line.shift_of_filled more hClosing]
  simp only [List.append_assoc, List.cons_append,
    List.nil_append]

/- What reindenting puts in front of a line. -/
theorem unit_or_nil
    (reindent : Bool)
    (unit : Text) :
    (if reindent then unit else []) = unit ∨
      (if reindent then unit else []) = [] := by
  cases reindent with
  | true => exact .inl rfl
  | false => exact .inr rfl

/- Even lines that are moved in are even lines again. -/
theorem runs_map_shift
    (hMore : Text.allBlank more = true)
    (hRuns : Runs 0 lines 0) :
    Runs 0 (lines.map (Line.shift more)) 0 := by
  apply hRuns.congr_trimLeft
  rw [List.map_map]
  apply List.map_congr_left
  intro line _
  exact (Line.trimLeft_shift line hMore).symm

theorem runs_layer
    (rule : Rule)
    (hLead : Text.allBlank lead = true)
    (hMore : Text.allBlank more = true)
    (hRuns : Runs 0 lines 0) :
    Runs 0 (layer rule lead more lines) 0 :=
  .wrapper (Rule.opensWrapper_append hLead)
    (runs_map_shift hMore hRuns)
    (Rule.closesEither_of_closesWrapper
      (Rule.closesWrapper_append hLead))

/- A layer around indented lines is indented as they are. -/
theorem indented_layer
    (hIndent : indent.Spaces)
    (hUnit : unit.Spaces)
    (hMore : more.Spaces)
    (hIndented : lines.Indented indent) :
    (layer rule (indent ++ unit) more lines).Indented
      indent := by
  have hLead := (hIndent.append hUnit).allBlank
  have hOpening := Rule.allBlank_of_opensWrapper
    (rule.opensWrapper_append hLead)
  have hClosing := Rule.allBlank_of_closesEither
    (Rule.closesEither_of_closesWrapper
      (rule.closesWrapper_append hLead))
  constructor
  · intro line hLine hBlank
    rcases mem_layer.mp hLine with
      rfl | ⟨other, hOther, rfl⟩ | rfl
    · rw [List.append_assoc]
      exact List.prefix_append indent _
    · rw [Line.allBlank_shift other hMore.allBlank] at hBlank
      have hMoved := Line.shift_of_filled more hBlank
      rcases hIndented.starts other hOther hBlank with
        ⟨tail, rfl⟩
      rw [hMoved, ← List.append_assoc,
        hMore.append_comm hIndent, List.append_assoc]
      exact List.prefix_append indent _
    · rw [List.append_assoc]
      exact List.prefix_append indent _
  · intro line hLine hBlank
    rcases mem_layer.mp hLine with
      rfl | ⟨other, hOther, rfl⟩ | rfl
    · rw [hOpening] at hBlank
      cases hBlank
    · rw [Line.allBlank_shift other hMore.allBlank] at hBlank
      rw [hIndented.empty other hOther hBlank]
      rfl
    · rw [hClosing] at hBlank
      cases hBlank

/- What stands in front of an opening line. -/
theorem leading_append_wrapOpen
    (rule : Rule)
    (hLead : Text.allBlank lead = true) :
    Text.leading (lead ++ rule.wrapOpen) = lead := by
  refine (Template.leading_append hLead ?_).1
  intro c hc
  rw [← rule.wrapOpen_trim] at hc
  exact Text.isBlank_of_mem_head?_trim hc

/- The unit of a layer is the one it was written with. -/
theorem inferUnit?_layer
    (rule : Rule)
    (more : Text)
    (lines : Lines)
    (hIndent : indent.Spaces)
    (hUnit : unit.Spaces)
    (hNe : unit ≠ []) :
    Method.inferUnit?
        (layer rule (indent ++ unit) more lines) indent =
      some unit := by
  have hLead := (hIndent.append hUnit).allBlank
  have hFilled := Rule.allBlank_of_opensWrapper
    (rule.opensWrapper_append hLead)
  have hLonger :
      indent.length < (indent ++ unit).length := by
    rw [List.length_append]
    have hPos := List.length_pos_iff.mpr hNe
    omega
  unfold Method.inferUnit? layer
  rw [List.findSome?_cons, hFilled,
    if_neg Bool.false_ne_true]
  simp only [leading_append_wrapOpen rule hLead]
  rw [if_pos (by
    rw [Bool.and_eq_true, List.isPrefixOf_iff_prefix,
      decide_eq_true_eq]
    exact ⟨List.prefix_append indent unit, hLonger⟩),
    List.drop_left]

/- Any number of layers around even lines are even lines. -/
theorem runs_layers
    (rule : Rule)
    (hLead : Text.allBlank lead = true)
    (hMore : Text.allBlank more = true)
    (hRuns : Runs 0 lines 0)
    (n : Nat) :
    Runs 0 ((layer rule lead more)^[n] lines) 0 := by
  induction n with
  | zero => exact hRuns
  | succ n ih =>
      rw [Function.iterate_succ_apply']
      exact runs_layer rule hLead hMore ih

/- They are indented as the lines are. -/
theorem indented_layers
    (rule : Rule)
    (hIndent : indent.Spaces)
    (hUnit : unit.Spaces)
    (hMore : more.Spaces)
    (hIndented : lines.Indented indent)
    (n : Nat) :
    ((layer rule (indent ++ unit) more)^[n]
      lines).Indented indent := by
  induction n with
  | zero => exact hIndented
  | succ n ih =>
      rw [Function.iterate_succ_apply']
      exact indented_layer hIndent hUnit hMore ih

/- A layer puts no annotation to those of its lines. -/
theorem closesAnnotated_layer
    (hLead : Text.allBlank lead = true)
    (hMore : Text.allBlank more = true)
    (hPlain : ∀ line ∈ lines,
      rule.closesAnnotated line = false) :
    ∀ line ∈ layer rule lead more lines,
      rule.closesAnnotated line = false := by
  intro line hLine
  rcases mem_layer.mp hLine with
    rfl | ⟨other, hOther, rfl⟩ | rfl
  · by_contra hAnnotated
    rw [Bool.not_eq_false] at hAnnotated
    have hBalance := Rule.braceBalance_of_closesEither
      (Rule.closesEither_of_closesAnnotated hAnnotated)
    rw [Rule.braceBalance_of_opensWrapper
      (rule.opensWrapper_append hLead)] at hBalance
    cases hBalance
  · rw [← hPlain other hOther]
    unfold Rule.closesAnnotated
    rw [Line.trim_shift other hMore]
  · have hCloses :=
      rule.closesWrapper_append hLead
    rw [Rule.closesWrapper_eq, Bool.and_eq_true,
      Bool.not_eq_true'] at hCloses
    exact hCloses.2

end Lines

------------------------------------------------------------
-- Repairs of Layers
------------------------------------------------------------

namespace Wrapper

/- The lines of one wrapper, with the blank ones around it. -/
theorem IsWhole.exists_eq
    {rule : Rule}
    {lines : Lines}
    (hWhole : IsWhole rule lines) :
    ∃ gap opening core closing final,
      lines = gap ++ opening :: (core ++ closing :: final) ∧
        Lines.filled gap = [] ∧
        rule.opensWrapper opening = true ∧
        Lines.Runs 0 core 0 ∧
        rule.closesEither closing = true ∧
        Lines.filled final = [] := by
  rcases hWhole with
    ⟨opening, inner, closing, hFilled, hOpening, hInner,
      hClosing⟩
  rcases Lines.exists_of_filled_eq_cons hFilled with
    ⟨gap, _, rfl, hGap, hInside⟩
  rcases Lines.exists_of_filled_eq_append hInside with
    ⟨before, _, rfl, hBefore, hEnd⟩
  rcases Lines.exists_of_filled_eq_cons hEnd with
    ⟨gapEnd, final, rfl, hGapEnd, hFinal⟩
  have hCore : Lines.Runs 0 (before ++ gapEnd) 0 := by
    rw [← Lines.Runs.filled_iff, Lines.filled_append, hBefore,
      hGapEnd, List.append_nil]
    exact hInner
  exact ⟨gap, opening, before ++ gapEnd, closing, final,
    by simp, hGap, hOpening, hCore, hClosing, hFinal⟩

/- Lines that are moved in are no wrapper if they were none. -/
theorem not_isWhole_map_shift
    {rule : Rule}
    {more : Text}
    {lines : Lines}
    (hMore : Text.allBlank more = true)
    (hBare : ¬IsWhole rule lines) :
    ¬IsWhole rule (lines.map (Line.shift more)) := by
  intro hWhole
  apply hBare
  apply hWhole.of_trimLeft
  apply Lines.map_trimLeft_filled_congr
  rw [List.map_map]
  apply List.map_congr_left
  intro line _
  exact Line.trimLeft_shift line hMore

end Wrapper

namespace Repair

open Lines

/- A pair of wrappers with no blank lines between them. -/
theorem collapse?_pair
    {rule : Rule}
    {seen inner below : Lines}
    {decl outerOpen innerOpen innerClose outerClose : Line}
    {stop : Nat}
    (hSpans :
      Method.Spans rule
        (seen ++ decl :: outerOpen :: innerOpen ::
          (inner ++ innerClose :: outerClose :: below))
        seen.length stop)
    (hOuterOpen : rule.opensWrapper outerOpen = true)
    (hInnerOpen : rule.opensWrapper innerOpen = true)
    (hInner : Runs 0 inner 0)
    (hInnerClose : rule.closesEither innerClose = true)
    (hOuterClose : rule.closesEither outerClose = true)
    (hPrefix :
      (Text.leading outerOpen).isPrefixOf
        (Text.leading innerOpen) = true) :
    collapse? rule seen.length
        (seen ++ decl :: outerOpen :: innerOpen ::
          (inner ++ innerClose :: outerClose :: below)) =
      some (seen ++ decl :: outerOpen ::
        (inner.map
            (Line.outdent (Text.leading outerOpen)
              (Text.leading innerOpen)) ++
          outerClose :: below)) := by
  have hGapped : Method.Spans rule
      (seen ++ decl :: ([] ++ outerOpen ::
        ([] ++ innerOpen :: (inner ++ innerClose ::
          ([] ++ outerClose :: below))))) seen.length stop :=
    hSpans
  have hOuter :
      Text.leading
          (get
            ((seen ++ [decl, outerOpen]) ++ innerOpen ::
              (inner ++ innerClose :: outerClose :: below))
            (seen ++ [decl]).length) =
        Text.leading outerOpen := by
    have hAt := Method.get_seen_cons (seen ++ [decl])
      outerOpen (innerOpen ::
        (inner ++ innerClose :: outerClose :: below))
    simp only [List.append_assoc, List.cons_append,
      List.nil_append] at hAt ⊢
    rw [hAt]
  have hOutdent := outdent_seen_cons
    (seen ++ [decl, outerOpen]) innerOpen inner
    (innerClose :: outerClose :: below) hOuter hPrefix
  simp only [List.append_assoc, List.cons_append,
    List.nil_append] at hOutdent
  exact collapse?_of_outdent hGapped rfl rfl rfl hOuterOpen
    hInnerOpen hInner hInnerClose hOuterClose
    (List.length_map _) hOutdent

section Layers

variable {rule : Rule}
variable (seen rest : Lines)
variable {decl last : Line}
variable (hOpener : (Method.opener? rule decl).isSome = true)
variable (hLast : Line.braceBalance last = -1)
variable {indent unit more : Text}
variable (hIndent : indent.Spaces)
variable (hUnit : unit.Spaces)
variable (hNe : unit ≠ [])
variable (hMore : more = unit ∨ more = [])
variable {body : Lines}

include hIndent hUnit hNe hMore in
/- Lines moved in twice and back once were moved in once. -/
theorem map_outdent_shift_shift
    (hIndented : body.Indented indent) :
    ((body.map (Line.shift more)).map
        (Line.shift more)).map
          (Line.outdent (indent ++ unit)
            (more ++ (indent ++ unit))) =
      body.map (Line.shift more) := by
  rw [List.map_map, List.map_map]
  apply List.map_congr_left
  intro line hLine
  simp only [Function.comp_apply]
  rcases hMore with rfl | rfl
  · exact Line.outdent_shift_shift hIndent hUnit hNe
      (hIndented.starts line hLine)
      (hIndented.empty line hLine)
  · rw [Line.shift_nil, Line.shift_nil, List.nil_append,
      Line.outdent_self]

include hOpener hLast hIndent hUnit hNe hMore
/- A collapse takes back what one wrapping did. -/
theorem collapse?_layer_layer
    (hRuns : Runs 0 body 0)
    (hIndented : body.Indented indent) :
    collapse? rule seen.length
        (seen ++ decl ::
          (layer rule (indent ++ unit) more
            (layer rule (indent ++ unit) more body) ++
              last :: rest)) =
      some (seen ++ decl ::
        (layer rule (indent ++ unit) more body ++
          last :: rest)) := by
  have hSpaces := hUnit.of_eq_or_nil hMore
  have hDeep := hIndent.append hUnit
  have hLead := hDeep.allBlank
  have hInnerLead := (hSpaces.append hDeep).allBlank
  have hSpans := Method.spans_of_runs seen rest hOpener
    (runs_layer rule hLead hSpaces.allBlank
      (runs_layer rule hLead hSpaces.allBlank hRuns)) hLast
  have hPrefix :
      (Text.leading
          (indent ++ unit ++ rule.wrapOpen)).isPrefixOf
        (Text.leading
          (more ++ (indent ++ unit) ++ rule.wrapOpen)) =
        true := by
    rw [leading_append_wrapOpen rule hLead,
      leading_append_wrapOpen rule hInnerLead,
      hSpaces.append_comm hDeep, List.isPrefixOf_iff_prefix]
    exact List.prefix_append _ _
  rw [layer_layer hLead] at hSpans ⊢
  simp only [List.cons_append, List.append_assoc _ _ (_ :: _),
    List.nil_append] at hSpans ⊢
  have hCollapse := collapse?_pair hSpans
    (rule.opensWrapper_append hLead)
    (rule.opensWrapper_append hInnerLead)
    (runs_map_shift hSpaces.allBlank
      (runs_map_shift hSpaces.allBlank hRuns))
    (Rule.closesEither_of_closesWrapper
      (rule.closesWrapper_append hInnerLead))
    (Rule.closesEither_of_closesWrapper
      (rule.closesWrapper_append hLead)) hPrefix
  rw [leading_append_wrapOpen rule hLead,
    leading_append_wrapOpen rule hInnerLead,
    map_outdent_shift_shift hIndent hUnit hNe hMore
      hIndented] at hCollapse
  rw [hCollapse]
  unfold layer
  simp only [List.cons_append, List.append_assoc _ _ (_ :: _),
    List.nil_append]

omit hNe in
/- A single layer around lines that are no wrapper is kept. -/
theorem settle_layer
    (hOther : rule.closesEither last = false)
    (hRuns : Runs 0 body 0)
    (hBare : ¬Wrapper.IsWhole rule body) :
    settle rule seen.length
        (seen ++ decl ::
          (layer rule (indent ++ unit) more body ++
            last :: rest)) =
      (seen ++ decl ::
          (layer rule (indent ++ unit) more body ++
            last :: rest), {}) := by
  have hSpaces := hUnit.of_eq_or_nil hMore
  have hLead := (hIndent.append hUnit).allBlank
  have hOpening := rule.opensWrapper_append hLead
  have hClosing := Rule.closesEither_of_closesWrapper
    (rule.closesWrapper_append hLead)
  have hInside := runs_map_shift hSpaces.allBlank hRuns
  have hInsideBare :=
    Wrapper.not_isWhole_map_shift hSpaces.allBlank hBare
  have hLines :
      layer rule (indent ++ unit) more body ++
          last :: rest =
        [] ++ (indent ++ unit ++ rule.wrapOpen) ::
          (body.map (Line.shift more) ++
            (indent ++ unit ++ rule.wrapClose) ::
              ([] ++ last :: rest)) := by
    unfold layer
    simp only [List.cons_append,
      List.append_assoc _ _ (_ :: _), List.nil_append]
  rw [hLines]
  exact settle_of_none
    (collapse?_single_eq_none seen decl ([] ++ last :: rest)
      rfl hOpening hInside hInsideBare hClosing)
    (Method.dropSurplus?_single_eq_none seen rest hOpener rfl
      hOpening hInside hClosing rfl hLast hOther)

/-
  A repair takes the layers off one by one, down to a single
  one, which it leaves alone.
-/
theorem settle_layers
    (hOther : rule.closesEither last = false)
    (hRuns : Runs 0 body 0)
    (hIndented : body.Indented indent)
    (hBare : ¬Wrapper.IsWhole rule body)
    (n : Nat) :
    settle rule seen.length
        (seen ++ decl ::
          ((layer rule (indent ++ unit) more)^[n + 1] body ++
            last :: rest)) =
      (seen ++ decl ::
          (layer rule (indent ++ unit) more body ++
            last :: rest),
        { collapsed := n }) := by
  have hSpaces := hUnit.of_eq_or_nil hMore
  have hLead := (hIndent.append hUnit).allBlank
  induction n with
  | zero =>
      exact settle_layer seen rest hOpener hLast hIndent hUnit
        hMore hOther hRuns hBare
  | succ n ih =>
      have hCollapse := collapse?_layer_layer seen rest
        hOpener hLast hIndent hUnit hNe hMore
        (runs_layers rule hLead hSpaces.allBlank hRuns n)
        (indented_layers rule hIndent hUnit hSpaces hIndented
          n)
      rw [← Function.iterate_succ_apply'
          (layer rule (indent ++ unit) more),
        ← Function.iterate_succ_apply'
          (layer rule (indent ++ unit) more)] at hCollapse
      rw [settle_of_collapse hCollapse, ih]

end Layers

/- In a layer of plain lines no annotation is taken off. -/
theorem normalize_layer
    {rule : Rule}
    (seen : Lines)
    (decl : Line)
    (rest : Lines)
    {last : Line}
    {lead more : Text}
    {body : Lines}
    (hLead : Text.allBlank lead = true)
    (hMore : Text.allBlank more = true)
    (hRuns : Runs 0 body 0)
    (hLast : Line.braceBalance last = -1)
    (hPlain : ∀ line ∈ body,
      rule.closesAnnotated line = false) :
    normalize rule seen.length
        (seen ++ decl ::
          (layer rule lead more body ++ last :: rest)) =
      (seen ++ decl ::
        (layer rule lead more body ++ last :: rest), 0) := by
  have hOnce := closesAnnotated_layer hLead hMore hPlain
  have hNone :
      (layer rule lead more body).countP
        rule.closesAnnotated = 0 := by
    rw [List.countP_eq_zero]
    intro line hLine
    rw [hOnce line hLine]
    decide
  rw [normalize_block rule seen decl (last :: rest)
    (Block.close?_of_runs seen decl rest
      (runs_layer rule hLead hMore hRuns) hLast),
    Rule.map_plain_eq_self hOnce, hNone]

end Repair

------------------------------------------------------------
-- Methods in Layers
------------------------------------------------------------

/- A block with the lines around and inside of it. -/
theorem Block.exists_last_of_close?
    {lines : Lines}
    {start stop : Nat}
    (hClose : close? lines start = some stop) :
    ∃ seen decl body last rest,
      lines = seen ++ decl :: (body ++ last :: rest) ∧
        start = seen.length ∧
        stop = (seen ++ decl :: body).length ∧
        Lines.get lines stop = last := by
  rcases exists_block_of_close? hClose with
    ⟨seen, decl, body, behind, rfl, rfl, rfl⟩
  have hBehind : behind ≠ [] := by
    rintro rfl
    have hLess := close?_lt_length hClose
    rw [List.append_nil] at hLess
    exact absurd hLess (Nat.lt_irrefl _)
  obtain ⟨last, rest, rfl⟩ :=
    List.exists_cons_of_ne_nil hBehind
  have hAt :=
    Method.get_seen_cons (seen ++ decl :: body) last rest
  rw [List.append_assoc, List.cons_append] at hAt
  exact ⟨seen, decl, body, last, rest, rfl, rfl, rfl, hAt⟩

namespace Method

open Lines

section Block

variable {rule : Rule}
variable {method : Method}
variable {seen body rest : Lines}
variable {decl last : Line}
variable (hStart : method.start = seen.length)
variable (hStop : method.stop = (seen ++ decl :: body).length)

include hStart hStop
theorem interior_block :
    method.interior (seen ++ decl :: (body ++ last :: rest)) =
      body := by
  unfold interior
  rw [hStart, hStop, drop_seen_cons,
    List.length_append, List.length_cons,
    show seen.length + (body.length + 1) - seen.length - 1 =
      body.length by omega, List.take_left]

/- To wrap a method is to put a layer around its body. -/
theorem wrap_block
    (reindent : Bool) :
    (method.wrap rule reindent
        (seen ++ decl :: (body ++ last :: rest))).1 =
      seen ++ decl ::
        (layer rule (method.indent ++ method.unit)
            (if reindent then method.unit else []) body ++
          last :: rest) := by
  have hFront :
      (seen ++ decl :: (body ++ last :: rest)).take
          (seen.length + 1) =
        seen ++ [decl] := by
    rw [List.take_length_add_append, List.take_succ_cons,
      List.take_zero]
  have hBack :
      (seen ++ decl :: (body ++ last :: rest)).drop
          (seen ++ decl :: body).length =
        last :: rest := by
    rw [show seen ++ decl :: (body ++ last :: rest) =
      (seen ++ decl :: body) ++ last :: rest by simp,
      List.drop_left]
  unfold wrap layer
  simp only [interior_block hStart hStop]
  rw [hStart, hStop, hFront, hBack]
  cases reindent with
  | true => simp
  | false =>
      have hSame : body.map (Line.shift []) = body := by
        rw [show Line.shift [] = id from
          funext Line.shift_nil, List.map_id]
      simp [hSame]

/- The body leads back to the level that it starts from. -/
theorem runs_of_spans
    (hSpans :
      Spans rule (seen ++ decl :: (body ++ last :: rest))
        method.start method.stop)
    (hLast : Line.braceBalance last = -1) :
    Runs 0 body 0 := by
  have hClose := hSpans.closes
  rw [hStart, hStop, close?_seen_cons,
    Option.map_eq_some_iff] at hClose
  rcases hClose with ⟨k, hWalk, hEnd⟩
  simp only [List.length_append, List.length_cons] at hEnd
  rw [show k = body.length by omega] at hWalk
  have hBody := Runs.of_closeOffset? (Int.le_refl 0) hWalk
  rw [hLast] at hBody
  exact hBody

/-
  The body of an unwrapped method is no wrapper, since the
  line that would close it is in neither form.
-/
theorem not_isWhole_of_unwrapped
    (hSpans :
      Spans rule (seen ++ decl :: (body ++ last :: rest))
        method.start method.stop)
    (hState :
      method.bodyState rule
          (seen ++ decl :: (body ++ last :: rest)) =
        .unwrapped) :
    ¬Wrapper.IsWhole rule body := by
  intro hWhole
  rcases hWhole.exists_eq with
    ⟨gap, opening, core, closing, final, rfl, hGap, hOpening,
      hCore, hClosing, hFinal⟩
  have hWrapped : Wrapped rule
      (seen ++ decl :: (gap ++ opening :: (core ++
        closing :: (final ++ last :: rest)))) seen.length
      (seen ++ decl :: (gap ++ opening :: (core ++
        closing :: final))).length
      (seen ++ decl :: gap).length
      (seen ++ decl :: (gap ++ opening :: core)).length :=
    wrapped_single seen rest hGap hOpening hCore hClosing
      hFinal
  have hAt := get_seen_cons
    (seen ++ decl :: (gap ++ opening :: core)) closing
    (final ++ last :: rest)
  simp only [List.append_assoc, List.cons_append]
    at hSpans hState hAt
  rw [← hStart, ← hStop] at hWrapped
  have hNeither :=
    closesEither_of_unwrapped hSpans hState hWrapped
  rw [hAt, hClosing] at hNeither
  cases hNeither

end Block

------------------------------------------------------------
-- Methods Wrapped Many Times
------------------------------------------------------------

/-
  Wrap the method declared on a line so many times, with the
  search made afresh each time.
-/
def wrapTimes?
    (rule : Rule)
    (fallback : Text)
    (reindent : Bool)
    (start : Nat) :
    Nat → Lines → Option Lines
  | 0, lines => some lines
  | n + 1, lines =>
      match locateAt? rule fallback start lines with
      | none => none
      | some method =>
          wrapTimes? rule fallback reindent start n
            (method.wrap rule reindent lines).1

section Wraps

variable {rule : Rule}
variable {fallback : Text}
variable {method : Method}
variable {seen body rest : Lines}
variable {decl last : Line}
variable
  (hMethod : .ok method ∈ locate rule fallback
    (seen ++ decl :: (body ++ last :: rest)))
variable (hStart : method.start = seen.length)
variable (hStop : method.stop = (seen ++ decl :: body).length)
variable (hRuns : Runs 0 body 0)
variable (hLast : Line.braceBalance last = -1)
variable (hIndent : method.indent.Spaces)
variable (hUnit : method.unit.Spaces)
variable (hNe : method.unit ≠ [])

include hMethod hStart hStop hRuns hLast hIndent hUnit hNe
/-
  In its layers a method is found with the indentation and
  the unit that it had without them.
-/
theorem exists_locateAt?_layers
    {more : Text}
    (hMore : more = method.unit ∨ more = [])
    (n : Nat) :
    let layers :=
      (layer rule (method.indent ++ method.unit) more)^[n] body
    ∃ again,
      locateAt? rule fallback seen.length
          (seen ++ decl :: (layers ++ last :: rest)) =
        some again ∧
      again.start = seen.length ∧
      again.stop = (seen ++ decl :: layers).length ∧
      again.indent = method.indent ∧
      again.unit = method.unit := by
  intro layers
  have hSpaces := hUnit.of_eq_or_nil hMore
  have hLead := (hIndent.append hUnit).allBlank
  have hLayers : Runs 0 layers 0 :=
    runs_layers rule hLead hSpaces.allBlank hRuns n
  have hAgain := mem_locate_of_body hMethod hStart hRuns
    hLayers hLast
  have hLocated := located_of_mem_locate hMethod
  have hIndentAt := hLocated.indent
  have hUnitAt := hLocated.unit
  rw [hStart, get_seen_cons] at hIndentAt
  rw [interior_block hStart hStop] at hUnitAt
  refine ⟨_, locateAt?_eq_some_iff.mpr ⟨hAgain, hStart⟩,
    hStart, ?_, hIndentAt.symm, ?_⟩
  · simp only [declaredAt, hStart, List.length_append,
      List.length_cons]
    omega
  · simp only [declaredAt, List.take_left, ← hIndentAt]
    cases n with
    | zero => exact hUnitAt.symm
    | succ n =>
        have hFound := inferUnit?_layer rule more
          ((layer rule (method.indent ++ method.unit)
            more)^[n] body) hIndent hUnit hNe
        unfold layers
        rw [Function.iterate_succ_apply', hFound,
          Option.getD_some]

/- Each wrapping puts one layer more around the body. -/
theorem wrapTimes?_layers
    (reindent : Bool)
    (n k : Nat) :
    let layers :=
      layer rule (method.indent ++ method.unit)
        (if reindent then method.unit else [])
    wrapTimes? rule fallback reindent seen.length n
        (seen ++ decl :: (layers^[k] body ++ last :: rest)) =
      some
        (seen ++ decl ::
          (layers^[k + n] body ++ last :: rest)) := by
  intro layers
  have hMore := unit_or_nil reindent method.unit
  induction n generalizing k with
  | zero => rfl
  | succ n ih =>
      rcases exists_locateAt?_layers hMethod hStart hStop
          hRuns hLast hIndent hUnit hNe hMore k with
        ⟨again, hAgain, hAgainStart, hAgainStop, hSameIndent,
          hSameUnit⟩
      have hNext := ih (k + 1)
      rw [Function.iterate_succ_apply', Nat.add_right_comm,
        Nat.add_assoc] at hNext
      rw [wrapTimes?, hAgain]
      simp only
      rw [wrap_block hAgainStart hAgainStop reindent,
        hSameIndent, hSameUnit]
      exact hNext

end Wraps

/-
  A repair of a method that was wrapped any number of times
  leaves the lines of one that was wrapped once, byte for
  byte: it takes off the layers that are too many and changes
  nothing else.
-/
theorem repair_wrapTimes?
    {rule : Rule}
    {fallback : Text}
    {lines : Lines}
    {method : Method}
    (hMethod : .ok method ∈ locate rule fallback lines)
    (hState : method.bodyState rule lines = .unwrapped)
    (hIndent : method.indent.Spaces)
    (hUnit : method.unit.Spaces)
    (hNe : method.unit ≠ [])
    (hLast :
      Line.braceBalance (get lines method.stop) = -1)
    (hOther :
      rule.closesEither (get lines method.stop) = false)
    (hIndented :
      (method.interior lines).Indented method.indent)
    (hPlain : ∀ line ∈ method.interior lines,
      rule.closesAnnotated line = false)
    (reindent : Bool)
    (n : Nat) :
    ∃ wrapped again,
      wrapTimes? rule fallback reindent method.start (n + 1)
          lines = some wrapped ∧
        locateAt? rule fallback method.start wrapped =
          some again ∧
        again.repair rule wrapped =
          ((method.wrap rule reindent lines).1,
            { collapsed := n }) := by
  have hSpans :=
    Spans.of_located (located_of_mem_locate hMethod)
  rcases Block.exists_last_of_close? hSpans.closes with
    ⟨seen, decl, body, last, rest, rfl, hStart, hStop,
      hAtStop⟩
  rw [hAtStop] at hLast hOther
  rw [interior_block hStart hStop]
    at hIndented hPlain
  have hRuns :=
    runs_of_spans hStart hStop hSpans hLast
  have hBare := not_isWhole_of_unwrapped hStart
    hStop hSpans hState
  have hOpener := hSpans.opener
  rw [hStart, get_seen_cons] at hOpener
  have hMore := unit_or_nil reindent method.unit
  have hSpaces := hUnit.of_eq_or_nil hMore
  have hLead := (hIndent.append hUnit).allBlank
  have hWrapped := wrapTimes?_layers hMethod hStart
    hStop hRuns hLast hIndent hUnit hNe reindent (n + 1) 0
  rcases exists_locateAt?_layers hMethod hStart
      hStop hRuns hLast hIndent hUnit hNe hMore (n + 1)
    with ⟨again, hAgain, hAgainStart, _⟩
  rw [Nat.zero_add] at hWrapped
  rw [hStart]
  refine ⟨_, again, hWrapped, hAgain, ?_⟩
  have hSettle := Repair.settle_layers seen rest hOpener hLast
    hIndent hUnit hNe hMore hOther hRuns hIndented hBare n
  have hNormal := Repair.normalize_layer seen decl rest hLead
    hSpaces.allBlank hRuns hLast hPlain
  rw [wrap_block hStart hStop reindent]
  unfold repair
  rw [hAgainStart, hSettle]
  simp only [hNormal]

/- Three wrappers around a body with an empty line. -/
theorem repair_wrapTimes?_thrice :
    let lines : Lines :=
      ["class Quiz \x7b".toList,
        "  void _generateQuestion() \x7b".toList,
        "    a();".toList,
        "".toList,
        "    b();".toList,
        "  \x7d".toList,
        "\x7d".toList]
    let once : Lines :=
      ["class Quiz \x7b".toList,
        "  void _generateQuestion() \x7b".toList,
        "    setState(() \x7b".toList,
        "      a();".toList,
        "".toList,
        "      b();".toList,
        "    \x7d);".toList,
        "  \x7d".toList,
        "\x7d".toList]
    let method : Method :=
      { name := "_generateQuestion".toList
        start := 1
        stop := 5
        indent := "  ".toList
        unit := "  ".toList }
    .ok method ∈ locate Rule.standard "  ".toList lines ∧
      method.bodyState Rule.standard lines = .unwrapped ∧
      ∃ wrapped again,
        wrapTimes? Rule.standard "  ".toList true 1 3 lines =
            some wrapped ∧
          locateAt? Rule.standard "  ".toList 1 wrapped =
            some again ∧
          again.repair Rule.standard wrapped =
            (once, { collapsed := 2 }) := by
  intro lines once method
  have hMethod : .ok method ∈
      locate Rule.standard "  ".toList lines := by
    decide +kernel
  have hState :
      method.bodyState Rule.standard lines = .unwrapped := by
    decide +kernel
  have hSpaces : Text.Spaces "  ".toList := by
    intro c hc
    simpa using hc
  have hIndented :
      (method.interior lines).Indented method.indent :=
    ⟨by decide +kernel, by decide +kernel⟩
  have hOnce : (method.wrap Rule.standard true lines).1 =
      once := by
    decide +kernel
  refine ⟨hMethod, hState, ?_⟩
  rw [← hOnce]
  exact repair_wrapTimes? hMethod hState hSpaces hSpaces
    (by decide) (by decide +kernel) (by decide +kernel)
    hIndented (by decide +kernel) true 2

end Method

end NotifyScope
