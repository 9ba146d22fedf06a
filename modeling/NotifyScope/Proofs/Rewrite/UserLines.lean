import NotifyScope.Proofs.Rule.Declaration
import NotifyScope.Proofs.Wrapper.Indentation
import NotifyScope.Proofs.Wrapper.Steps

/-
  A rewrite neither loses nor repeats nor moves a line of the
  user: what it puts in and takes out are markers and wrapper
  lines, and any other line it changes in its indentation and
  in the names it mentions only.

  Key definitions include:
    * `Rule.essence`
    * `Rule.scaffold`
    * `Lines.userTexts`

  Main declarations:
    * `Method.userTexts_rewrite`
    * `Rule.userTexts_apply`
-/

------------------------------------------------------------
-- User Lines
------------------------------------------------------------

namespace NotifyScope

namespace Rule

/- What a line says apart from its indentation and names. -/
def essence
    (rule : Rule)
    (line : Line) : Text :=
  rule.renamed (Text.trim line)

/- What the lines say that a rewrite puts in or takes out. -/
def scaffold
    (rule : Rule) : List Text :=
  rule.fixedLines.map rule.renamed

end Rule

namespace Lines

/- What the lines of the user say, blank ones included. -/
def userTexts
    (rule : Rule)
    (lines : Lines) : List Text :=
  (lines.map rule.essence).filter fun text =>
    decide (text ∉ rule.scaffold)

variable {rule : Rule}

theorem userTexts_append
    (left right : Lines) :
    userTexts rule (left ++ right) =
      userTexts rule left ++ userTexts rule right := by
  simp only [userTexts, List.map_append, List.filter_append]

theorem userTexts_cons
    (line : Line)
    (lines : Lines) :
    userTexts rule (line :: lines) =
      userTexts rule [line] ++ userTexts rule lines :=
  userTexts_append [line] lines

/- A scaffold line says nothing of the user's. -/
theorem userTexts_of_scaffold
    {line : Line}
    (hLine : rule.essence line ∈ rule.scaffold) :
    userTexts rule [line] = [] := by
  simp [userTexts, hLine]

/- Lines that say the same are the same to the user. -/
theorem userTexts_of_essence_eq
    {left right : Line}
    (hSame : rule.essence left = rule.essence right) :
    userTexts rule [left] = userTexts rule [right] := by
  simp [userTexts, hSame]

/- Changing lines one by one, each without the user's notice. -/
theorem userTexts_mapIdx
    {change : Nat → Line → Line}
    (lines : Lines)
    (hChange : ∀ i line,
      userTexts rule [change i line] =
        userTexts rule [line]) :
    userTexts rule (lines.mapIdx change) =
      userTexts rule lines := by
  induction lines generalizing change with
  | nil => rfl
  | cons line lines ih =>
      rw [List.mapIdx_cons, userTexts_cons, hChange,
        ih (fun i other => hChange (i + 1) other),
        ← userTexts_cons]

theorem userTexts_map
    {change : Line → Line}
    (lines : Lines)
    (hChange : ∀ line,
      userTexts rule [change line] =
        userTexts rule [line]) :
    userTexts rule (lines.map change) =
      userTexts rule lines := by
  induction lines with
  | nil => rfl
  | cons line lines ih =>
      rw [List.map_cons, userTexts_cons, hChange, ih,
        ← userTexts_cons]

theorem userTexts_set
    {line : Line}
    (lines : Lines)
    (i : Nat)
    (hLine :
      userTexts rule [line] =
        userTexts rule [get lines i]) :
    userTexts rule (lines.set i line) =
      userTexts rule lines := by
  induction lines generalizing i with
  | nil => rfl
  | cons first lines ih =>
      cases i with
      | zero =>
          rw [List.set_cons_zero, userTexts_cons, hLine,
            get_cons_zero, ← userTexts_cons]
      | succ i =>
          rw [List.set_cons_succ, userTexts_cons,
            ih i hLine, ← userTexts_cons]

/- Taking out a scaffold line. -/
theorem userTexts_eraseIdx
    {lines : Lines}
    {i : Nat}
    (hLine : rule.essence (get lines i) ∈ rule.scaffold) :
    userTexts rule (lines.eraseIdx i) =
      userTexts rule lines := by
  by_cases hLess : i < lines.length
  · rw [get_eq_getElem hLess] at hLine
    rw [List.eraseIdx_eq_take_drop_succ, userTexts_append]
    conv_rhs =>
      rw [← List.take_append_drop i lines, userTexts_append,
        List.drop_eq_getElem_cons hLess, userTexts_cons,
        userTexts_of_scaffold hLine, List.nil_append]
  · rw [List.eraseIdx_of_length_le (Nat.le_of_not_lt hLess)]

/- Putting in a scaffold line. -/
theorem userTexts_insertIdx
    {line : Line}
    (lines : Lines)
    (i : Nat)
    (hLine : rule.essence line ∈ rule.scaffold) :
    userTexts rule (lines.insertIdx i line) =
      userTexts rule lines := by
  induction lines generalizing i with
  | nil =>
      cases i with
      | zero => exact userTexts_of_scaffold hLine
      | succ i => rfl
  | cons first lines ih =>
      cases i with
      | zero =>
          rw [List.insertIdx_zero, userTexts_cons,
            userTexts_of_scaffold hLine, List.nil_append]
      | succ i =>
          rw [List.insertIdx_succ_cons, userTexts_cons, ih,
            ← userTexts_cons]

end Lines

------------------------------------------------------------
-- Lines That Say the Same
------------------------------------------------------------

namespace Rule

variable (rule : Rule)

/- White space in front does not show. -/
theorem essence_append_left
    {blank : Text}
    (line : Line)
    (hBlank : Text.allBlank blank = true) :
    rule.essence (blank ++ line) = rule.essence line := by
  unfold essence
  rw [Text.trim_append_left line hBlank]

/- Renaming a line does not show. -/
theorem essence_renamed
    (line : Line) :
    rule.essence (rule.renamed line) = rule.essence line := by
  unfold essence
  rw [rule.trim_renamed, rule.renamed_renamed]

/- Lines that are the same once trimmed say the same. -/
theorem essence_eq_of_trim_eq
    {left right : Line}
    (hTrim : Text.trim left = Text.trim right) :
    rule.essence left = rule.essence right := by
  unfold essence
  rw [hTrim]

theorem essence_mem_scaffold_of_opensWrapper
    {line : Line}
    (hOpens : rule.opensWrapper line = true) :
    rule.essence line ∈ rule.scaffold := by
  unfold essence scaffold
  rw [opensWrapper_iff.mp hOpens]
  exact List.mem_map_of_mem rule.wrapOpen_mem_fixedLines

theorem essence_mem_scaffold_of_closesEither
    {line : Line}
    (hCloses : rule.closesEither line = true) :
    rule.essence line ∈ rule.scaffold := by
  unfold essence scaffold
  apply List.mem_map_of_mem
  rcases closesEither_iff.mp hCloses with hClose | hLegacy
  · rw [hClose]
    exact rule.wrapClose_mem_fixedLines
  · rw [hLegacy]
    exact rule.legacyClose_mem_fixedLines

/- An indented marker is a scaffold line. -/
theorem essence_mem_scaffold_of_marker
    {marker : Line}
    {blank : Text}
    (hMarker : rule.marker = some marker)
    (hBlank : Text.allBlank blank = true) :
    rule.essence (blank ++ marker) ∈ rule.scaffold := by
  rw [rule.essence_append_left marker hBlank]
  unfold essence scaffold
  rw [(rule.marker_trim marker hMarker).2]
  exact List.mem_map_of_mem
    (marker_mem_fixedLines hMarker)

end Rule

------------------------------------------------------------
-- Edits of a Method
------------------------------------------------------------

namespace Method

open Lines

variable {rule : Rule}

/- The lines of a text around the interior of a method. -/
theorem take_append_interior
    {method : Method}
    (lines : Lines)
    (hLess : method.start < method.stop) :
    lines.take (method.start + 1) ++
        (method.interior lines ++ lines.drop method.stop) =
      lines := by
  have hStop :
      lines.drop method.stop =
        (lines.drop (method.start + 1)).drop
          (method.stop - method.start - 1) := by
    rw [List.drop_drop]
    congr 1
    omega
  unfold interior
  rw [hStop, List.take_append_drop, List.take_append_drop]

/- A wrapper around a body does not show. -/
theorem userTexts_wrap
    (reindent : Bool)
    {method : Method}
    (lines : Lines)
    (hLess : method.start < method.stop)
    (hIndent : Text.allBlank method.indent = true)
    (hUnit : Text.allBlank method.unit = true) :
    userTexts rule (method.wrap rule reindent lines).1 =
      userTexts rule lines := by
  have hDeep :
      Text.allBlank (method.indent ++ method.unit) =
        true := by
    simp [hIndent, hUnit]
  have hOpen :
      rule.essence
          (method.indent ++ method.unit ++ rule.wrapOpen) ∈
        rule.scaffold :=
    rule.essence_mem_scaffold_of_opensWrapper
      (Rule.opensWrapper_append hDeep)
  have hClose :
      rule.essence
          (method.indent ++ method.unit ++ rule.wrapClose) ∈
        rule.scaffold :=
    rule.essence_mem_scaffold_of_closesEither
      (Rule.closesEither_of_closesWrapper
        (Rule.closesWrapper_append hDeep))
  have hBody :
      userTexts rule
          (if reindent then
            (method.interior lines).map
              (Line.shift method.unit)
          else
            method.interior lines) =
        userTexts rule (method.interior lines) := by
    split
    · apply userTexts_map
      intro line
      exact userTexts_of_essence_eq
        (rule.essence_eq_of_trim_eq
          (Line.trim_shift line hUnit))
    · rfl
  have hWhole := take_append_interior lines hLess
  unfold wrap
  simp only [List.append_assoc, List.cons_append]
  rw [userTexts_append, userTexts_cons,
    userTexts_of_scaffold (by simpa using hOpen),
    userTexts_append, userTexts_cons (_ ++ _),
    userTexts_of_scaffold (by simpa using hClose), hBody]
  conv_rhs =>
    rw [← hWhole, userTexts_append, userTexts_append]
  simp

end Method

namespace Repair

open Lines

variable {rule : Rule} {start : Nat}

/- Shifting lines back does not show. -/
theorem userTexts_outdent
    (lines : Lines)
    (outer inner stop : Nat) :
    userTexts rule (Lines.outdent lines outer inner stop) =
      userTexts rule lines := by
  unfold Lines.outdent
  simp only
  split
  · apply userTexts_mapIdx
    intro i line
    split
    · exact userTexts_of_essence_eq
        (rule.essence_eq_of_trim_eq
          (Line.trim_outdent line
            (Text.allBlank_leading _)
            (Text.allBlank_leading _)))
    · rfl
  · rfl

/- A line that an edit takes out is one of the scaffold. -/
theorem userTexts_collapse?
    {before after : Lines}
    (hCollapse :
      collapse? rule start before = some after) :
    userTexts rule after = userTexts rule before := by
  rcases collapse?_eq_some_iff.mp hCollapse with
    ⟨stop, first, pair, _, _, _, hPair, _, rfl⟩
  rcases Wrapper.stackedAt?_eq_some_iff.mp hPair with
    ⟨_, _, hInnerOpens, _, hInnerEnd, _, hInnerCloses, _⟩
  have hLess := Block.lt_close? hInnerEnd
  have hClose :
      rule.essence
          (get
            (Lines.outdent before first pair.innerOpen
              pair.innerClose) pair.innerClose) ∈
        rule.scaffold := by
    rw [rule.essence_eq_of_trim_eq (trim_get_outdent ..)]
    exact rule.essence_mem_scaffold_of_closesEither
      hInnerCloses
  have hOpen :
      rule.essence
          (get
            ((Lines.outdent before first pair.innerOpen
              pair.innerClose).eraseIdx pair.innerClose)
            pair.innerOpen) ∈
        rule.scaffold := by
    rw [get_eraseIdx_of_lt _ hLess,
      rule.essence_eq_of_trim_eq (trim_get_outdent ..)]
    exact rule.essence_mem_scaffold_of_opensWrapper
      hInnerOpens
  unfold collapsed
  rw [userTexts_eraseIdx hOpen, userTexts_eraseIdx hClose,
    userTexts_outdent]

theorem userTexts_dropSurplus?
    {before after : Lines}
    (hDrop : dropSurplus? rule start before = some after) :
    userTexts rule after = userTexts rule before := by
  rcases dropSurplus?_eq_some_iff.mp hDrop with
    ⟨stop, last, _, _, hSurplus, rfl⟩
  have hCloses :=
    (Wrapper.surplusClose?_eq_some_iff.mp hSurplus).2.2.1
  exact userTexts_eraseIdx
    (rule.essence_mem_scaffold_of_closesEither hCloses)

theorem userTexts_settle
    (lines : Lines) :
    userTexts rule (settle rule start lines).1 =
      userTexts rule lines := by
  apply settle_invariant fun settled =>
    userTexts rule settled = userTexts rule lines
  · intro before after hBefore hCollapse
    rw [userTexts_collapse? hCollapse, hBefore]
  · intro before after hBefore hDrop
    rw [userTexts_dropSurplus? hDrop, hBefore]
  · rfl

/- A closing line is a scaffold line in both its forms. -/
theorem userTexts_normalize
    (lines : Lines) :
    userTexts rule (normalize rule start lines).1 =
      userTexts rule lines := by
  unfold normalize
  split
  · rfl
  · apply userTexts_mapIdx
    intro i line
    split
    · rename_i hTarget
      rw [Bool.and_eq_true] at hTarget
      rw [userTexts_of_scaffold
          (rule.essence_mem_scaffold_of_closesEither
            (Rule.closesEither_of_closesWrapper
              (Rule.closesWrapper_append
                (Text.allBlank_leading line)))),
        userTexts_of_scaffold
          (rule.essence_mem_scaffold_of_closesEither
            (Rule.closesEither_of_closesAnnotated
              hTarget.2))]
    · rfl

end Repair

namespace Method

open Lines

variable {rule : Rule}

theorem userTexts_repair
    (method : Method)
    (lines : Lines) :
    userTexts rule (method.repair rule lines).1 =
      userTexts rule lines := by
  unfold repair
  simp only
  rw [Repair.userTexts_normalize, Repair.userTexts_settle]

theorem userTexts_rewriteBody
    (rule : Rule)
    (reindent : Bool)
    {method : Method}
    (lines : Lines)
    (hLess : method.start < method.stop)
    (hIndent : Text.allBlank method.indent = true)
    (hUnit : Text.allBlank method.unit = true) :
    userTexts rule
        (method.rewriteBody rule reindent lines).lines =
      userTexts rule lines := by
  unfold rewriteBody
  simp only
  split
  · exact userTexts_wrap reindent lines hLess hIndent hUnit
  · rfl
  · exact userTexts_repair method lines
  · exact userTexts_repair method lines

/- Neither the new name nor the marker shows. -/
theorem userTexts_renameDeclaration
    {method : Method}
    (lines : Lines)
    (hIndent : Text.allBlank method.indent = true) :
    userTexts rule (method.renameDeclaration rule lines).1 =
      userTexts rule lines := by
  have hRenamed :
      userTexts rule
          (lines.set method.start
            (rule.renamed (get lines method.start))) =
        userTexts rule lines :=
    userTexts_set lines method.start
      (userTexts_of_essence_eq (rule.essence_renamed _))
  cases hMarker : rule.marker with
  | none =>
      rw [renameDeclaration_of_none method lines hMarker]
      exact hRenamed
  | some marker =>
      rw [renameDeclaration_of_some method lines hMarker]
      unfold insertMarker
      split
      · exact hRenamed
      · rw [userTexts_insertIdx]
        · exact hRenamed
        · exact rule.essence_mem_scaffold_of_marker hMarker
            hIndent

theorem userTexts_rewrite
    (rule : Rule)
    (reindent : Bool)
    {method : Method}
    (lines : Lines)
    (hLess : method.start < method.stop)
    (hIndent : Text.allBlank method.indent = true)
    (hUnit : Text.allBlank method.unit = true) :
    userTexts rule
        (method.rewrite rule reindent lines).lines =
      userTexts rule lines := by
  have hBody :=
    userTexts_rewriteBody rule reindent lines hLess hIndent
      hUnit
  rw [← hBody]
  exact userTexts_renameDeclaration _ hIndent

/- Whatever each of the methods keeps is kept by all. -/
theorem userTexts_rewriteAll
    (reindent : Bool)
    (methods : List Method)
    (lines : Lines)
    (hMethods : ∀ method ∈ methods,
      method.start < method.stop ∧
        Text.allBlank method.indent = true ∧
        Text.allBlank method.unit = true) :
    userTexts rule
        (rewriteAll rule reindent methods lines).lines =
      userTexts rule lines := by
  induction methods with
  | nil => rfl
  | cons method methods ih =>
      rcases hMethods method List.mem_cons_self with
        ⟨hLess, hIndent, hUnit⟩
      have hStep :=
        userTexts_rewrite rule reindent
          (rewriteAll rule reindent methods lines).lines
          hLess hIndent hUnit
      rw [← ih (fun other hOther =>
        hMethods other (List.mem_cons_of_mem _ hOther)),
        ← hStep]
      rfl

end Method

------------------------------------------------------------
-- A Whole Rule
------------------------------------------------------------

namespace Rule

open Lines

/-
  Applying a rule keeps what the lines of the user say, blank
  lines included, each as often and in the order it was said.
-/
theorem userTexts_apply
    (rule : Rule)
    (layout : Layout)
    (lines : Lines)
    (hUnit : Text.allBlank layout.unit = true)
    {work : Work}
    {unbalanced : List Nat}
    (hApply :
      rule.apply layout lines = .ok (work, unbalanced)) :
    userTexts rule work.lines = userTexts rule lines := by
  have hMethods :
      ∀ method ∈ (rule.survey layout lines).methods,
        method.start < method.stop ∧
          Text.allBlank method.indent = true ∧
          Text.allBlank method.unit = true := by
    intro method hMethod
    have hLocated := located_of_mem_survey hMethod
    exact ⟨Block.lt_close? hLocated.closes,
      hLocated.allBlank_indent,
      hLocated.allBlank_unit hUnit⟩
  rcases apply_eq_ok hApply with ⟨_, rfl, _⟩
  unfold rewrite
  split
  · rfl
  · simp only
    rw [renameAll_fst, userTexts_map,
      Method.userTexts_rewriteAll layout.reindent _ lines
        hMethods]
    intro line
    exact userTexts_of_essence_eq
      (rule.essence_renamed line)

/- A method that gets its wrapper, and a call of it. -/
theorem userTexts_apply_unwrapped :
    let layout : Layout :=
      { unit := "  ".toList, reindent := true }
    let lines : Lines :=
      ["void _generateQuestion() \x7b".toList,
        "  a();".toList,
        [],
        "\x7d".toList,
        "_generateQuestion();".toList]
    Text.allBlank layout.unit = true ∧
      ∃ work,
        standard.apply layout lines = .ok (work, []) ∧
          userTexts standard work.lines =
            userTexts standard lines := by
  intro layout lines
  have hUnit : Text.allBlank layout.unit = true := rfl
  have hConflict :
      (standard.survey layout lines).conflict = none := rfl
  have hApply := apply_of_conflict_eq_none hConflict
  exact ⟨hUnit, _, hApply,
    userTexts_apply standard layout lines hUnit hApply⟩

end Rule

end NotifyScope
