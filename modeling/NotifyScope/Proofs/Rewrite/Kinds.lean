import Mathlib.Data.List.InsertIdx
import NotifyScope.Proofs.Method.Location
import NotifyScope.Proofs.Rule.Renamed
import NotifyScope.Proofs.Wrapper.Steps

/-
  Lines of a kind that a rewrite does not lead out of.  What
  a rewrite does to a line is to rename in it, to change the
  white space in front of it, and to put a text of the rule
  behind white space.  So a kind of lines that allows these
  is kept by repairs, by wrappers and by a whole rule.

  Key definitions include:
    * `Lines.All`
    * `Rule.Closed`

  Main declarations:
    * `Method.all_rewriteBody`
    * `Method.all_renameDeclaration`
    * `Rule.all_rewrite`
-/

------------------------------------------------------------
-- Lists of Lines
------------------------------------------------------------

namespace NotifyScope

namespace Lines

/- Lines that are all of a kind. -/
def All
    (fine : Line → Prop)
    (lines : Lines) : Prop :=
  ∀ line ∈ lines, fine line

variable {fine : Line → Prop}
variable {left right lines : Lines}

theorem All.append
    (hLeft : All fine left)
    (hRight : All fine right) :
    All fine (left ++ right) := by
  intro line hLine
  rcases List.mem_append.mp hLine with hLine | hLine
  · exact hLeft line hLine
  · exact hRight line hLine

theorem All.cons
    {line : Line}
    (hLine : fine line)
    (hLines : All fine lines) :
    All fine (line :: lines) := by
  intro other hOther
  rcases List.mem_cons.mp hOther with rfl | hOther
  · exact hLine
  · exact hLines other hOther

/- Fewer lines are of no other kind. -/
theorem All.mono
    (hLines : All fine right)
    (hSubset : left ⊆ right) :
    All fine left :=
  fun line hLine => hLines line (hSubset hLine)

/- A missing line counts as an empty one. -/
theorem All.get
    (hLines : All fine lines)
    (hNil : fine [])
    (i : Nat) :
    fine (Lines.get lines i) := by
  by_cases hLess : i < lines.length
  · exact hLines _ (mem_of_lt_length hLess)
  · rw [get_of_length_le (Nat.le_of_not_lt hLess)]
    exact hNil

/- A change of each line that leaves it of the kind. -/
theorem All.mapIdx
    (hLines : All fine lines)
    {change : Nat → Line → Line}
    (hChange : ∀ i line, fine line → fine (change i line)) :
    All fine (lines.mapIdx change) := by
  intro line hLine
  rcases List.mem_mapIdx.mp hLine with ⟨i, hi, rfl⟩
  exact hChange i _ (hLines _ (List.getElem_mem hi))

theorem All.map
    (hLines : All fine lines)
    {change : Line → Line}
    (hChange : ∀ line, fine line → fine (change line)) :
    All fine (lines.map change) := by
  intro line hLine
  rcases List.mem_map.mp hLine with ⟨other, hOther, rfl⟩
  exact hChange other (hLines other hOther)

theorem All.set
    (hLines : All fine lines)
    {line : Line}
    (hLine : fine line)
    (i : Nat) :
    All fine (lines.set i line) := by
  intro other hOther
  rcases List.mem_or_eq_of_mem_set hOther with hOld | rfl
  · exact hLines other hOld
  · exact hLine

theorem All.insertIdx
    (hLines : All fine lines)
    {line : Line}
    (hLine : fine line)
    (i : Nat) :
    All fine (lines.insertIdx i line) := by
  intro other hOther
  rcases List.eq_or_mem_of_mem_insertIdx hOther with
    rfl | hOld
  · exact hLine
  · exact hLines other hOld

end Lines

------------------------------------------------------------
-- Closed Kinds
------------------------------------------------------------

namespace Rule

/-
  A kind of lines, with the kind of texts that stand in front
  of them, that a rewrite by the rule does not lead out of.
-/
structure Closed
    (front : Text → Prop)
    (fine : Line → Prop)
    (rule : Rule) : Prop where
  nil : fine []
  leading : ∀ {line}, fine line → front (Text.leading line)
  cut : ∀ {text}, front text → ∀ n, front (text.drop n)
  join :
    ∀ {left right}, front left → front right →
      front (left ++ right)
  push :
    ∀ {text line}, front text → fine line →
      fine (text ++ line)
  pull :
    ∀ {line n}, fine line →
      n ≤ (Text.leading line).length → fine (line.drop n)
  renamed : ∀ line, fine line → fine (rule.renamed line)
  marker : ∀ marker ∈ rule.marker, fine marker
  wrapOpen : fine rule.wrapOpen
  wrapClose : fine rule.wrapClose

end Rule

variable {front : Text → Prop}
variable {fine : Line → Prop}
variable {rule : Rule}
variable {lines : Lines}

------------------------------------------------------------
-- Repairs
------------------------------------------------------------

namespace Repair

variable {start : Nat}
variable (hRule : rule.Closed front fine)
include hRule

/- White space that is replaced is in front of the line. -/
theorem fine_outdent
    {outer inner line : Line}
    (hOuter : fine outer)
    (hLine : fine line) :
    fine
      (Line.outdent (Text.leading outer) (Text.leading inner)
        line) := by
  unfold Line.outdent
  split
  · rename_i hStarts
    obtain ⟨rest, rfl⟩ := List.isPrefixOf_iff_prefix.mp hStarts
    apply hRule.push (hRule.leading hOuter)
    apply hRule.pull hLine
    rw [Text.leading_append_left rest (Text.allBlank_leading _),
      List.length_append]
    exact Nat.le_add_right _ _
  · exact hLine

theorem all_outdent
    (hLines : Lines.All fine lines)
    (outer inner stop : Nat) :
    Lines.All fine
      (Lines.outdent lines outer inner stop) := by
  unfold Lines.outdent
  simp only
  split
  · apply hLines.mapIdx
    intro i line hLine
    split
    · exact fine_outdent hRule
        (hLines.get hRule.nil outer) hLine
    · exact hLine
  · exact hLines

theorem all_settle
    (hLines : Lines.All fine lines) :
    Lines.All fine (settle rule start lines).1 := by
  apply settle_invariant (Lines.All fine) ?_ ?_ hLines
  · intro before after hBefore hCollapse
    rcases collapse?_eq_some_iff.mp hCollapse with
      ⟨_, first, pair, _, _, _, _, _, rfl⟩
    exact (all_outdent hRule hBefore _ _ _).mono
      (fun line hLine =>
        List.eraseIdx_subset (List.eraseIdx_subset hLine))
  · intro before after hBefore hDrop
    rcases dropSurplus?_eq_some_iff.mp hDrop with
      ⟨_, _, _, _, _, rfl⟩
    exact hBefore.mono fun line hLine =>
      List.eraseIdx_subset hLine

theorem all_normalize
    (hLines : Lines.All fine lines) :
    Lines.All fine (normalize rule start lines).1 := by
  unfold normalize
  split
  · exact hLines
  · apply hLines.mapIdx
    intro i line hLine
    split
    · exact hRule.push (hRule.leading hLine)
        hRule.wrapClose
    · exact hLine

end Repair

------------------------------------------------------------
-- Methods
------------------------------------------------------------

namespace Method

variable {method : Method}

/- The indentation of a method stands in front of its line. -/
theorem Located.fronts
    {fallback : Text}
    (hRule : rule.Closed front fine)
    (hLines : Lines.All fine lines)
    (hFallback : front fallback)
    (hLocated : Located rule fallback lines method) :
    front method.indent ∧ front method.unit := by
  constructor
  · rw [hLocated.indent]
    exact hRule.leading (hLines.get hRule.nil _)
  · rw [hLocated.unit]
    cases hUnit :
        inferUnit? (method.interior lines) method.indent with
    | none => exact hFallback
    | some unit =>
        unfold inferUnit? at hUnit
        rcases List.exists_of_findSome?_eq_some hUnit with
          ⟨line, hLine, hSome⟩
        have hFine : fine line :=
          hLines line
            (List.drop_subset _ _
              (List.take_subset _ _ hLine))
        split at hSome
        · cases hSome
        · simp only at hSome
          split at hSome
          · cases hSome
            exact hRule.cut (hRule.leading hFine) _
          · cases hSome

variable (hRule : rule.Closed front fine)
include hRule

theorem all_wrap
    (reindent : Bool)
    (hLines : Lines.All fine lines)
    (hIndent : front method.indent)
    (hUnit : front method.unit) :
    Lines.All fine (method.wrap rule reindent lines).1 := by
  have hDeep := hRule.join hIndent hUnit
  have hInterior :
      Lines.All fine (method.interior lines) :=
    hLines.mono fun line hLine =>
      List.drop_subset _ _ (List.take_subset _ _ hLine)
  have hBody :
      Lines.All fine
        (if reindent then
          (method.interior lines).map
            (Line.shift method.unit)
        else
          method.interior lines) := by
    split
    · apply hInterior.map
      intro line hLine
      unfold Line.shift
      split
      · exact hLine
      · exact hRule.push hUnit hLine
    · exact hInterior
  unfold wrap
  simp only
  apply Lines.All.append
  · exact (hLines.mono (List.take_subset _ _)).append
      (.cons (hRule.push hDeep hRule.wrapOpen) hBody)
  · exact .cons (hRule.push hDeep hRule.wrapClose)
      (hLines.mono (List.drop_subset _ _))

theorem all_rewriteBody
    (reindent : Bool)
    (hLines : Lines.All fine lines)
    (hIndent : front method.indent)
    (hUnit : front method.unit) :
    Lines.All fine
      (method.rewriteBody rule reindent lines).lines := by
  have hRepair :
      Lines.All fine (method.repair rule lines).1 :=
    Repair.all_normalize hRule (Repair.all_settle hRule hLines)
  unfold rewriteBody
  simp only
  split
  · exact all_wrap hRule reindent hLines hIndent hUnit
  · exact hLines
  · exact hRepair
  · exact hRepair

theorem all_renameDeclaration
    (hLines : Lines.All fine lines)
    (hIndent : front method.indent) :
    Lines.All fine
      (method.renameDeclaration rule lines).1 := by
  have hSet :
      Lines.All fine
        (lines.set method.start
          (rule.renamed (Lines.get lines method.start))) :=
    hLines.set (hRule.renamed _ (hLines.get hRule.nil _)) _
  cases hMarker : rule.marker with
  | none =>
      rw [renameDeclaration_of_none method lines hMarker]
      exact hSet
  | some marker =>
      rw [renameDeclaration_of_some method lines hMarker]
      unfold Lines.insertMarker
      split
      · exact hSet
      · exact hSet.insertIdx
          (hRule.push hIndent (hRule.marker marker hMarker)) _

theorem all_rewriteAll
    (reindent : Bool)
    (methods : List Method)
    (hMethods : ∀ method ∈ methods,
      front method.indent ∧ front method.unit)
    (hLines : Lines.All fine lines) :
    Lines.All fine
      (rewriteAll rule reindent methods lines).lines := by
  induction methods with
  | nil => exact hLines
  | cons method methods ih =>
      have hBelow := ih fun other hOther =>
        hMethods other (List.mem_cons_of_mem _ hOther)
      rcases hMethods method List.mem_cons_self with
        ⟨hIndent, hUnit⟩
      exact all_renameDeclaration hRule
        (all_rewriteBody hRule reindent hBelow hIndent hUnit)
        hIndent

end Method

------------------------------------------------------------
-- A Whole Rule
------------------------------------------------------------

namespace Rule

/- A rewrite leaves lines of the kind. -/
theorem all_rewrite
    {layout : Layout}
    (hRule : rule.Closed front fine)
    (hUnit : front layout.unit)
    (hLines : Lines.All fine lines) :
    Lines.All fine
      (rule.rewrite layout (rule.survey layout lines)
        lines).lines := by
  unfold rewrite
  split
  · exact hLines
  · simp only [Lines.renameAll_fst]
    apply Lines.All.map ?_ hRule.renamed
    apply Method.all_rewriteAll hRule _ _ ?_ hLines
    intro method hMethod
    exact (located_of_mem_survey hMethod).fronts hRule hLines
      hUnit

end Rule

end NotifyScope
