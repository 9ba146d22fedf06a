import NotifyScope.Method.Signature
import NotifyScope.Proofs.Identifier.Renaming
import NotifyScope.Proofs.Lines.Position

/-
  Lines with the old name of a rule replaced.  A rule that
  keeps the name leaves every line alone; any other replaces
  the old name once and for all.

  Key definitions include:
    * `Rule.renamed`

  Main declarations:
    * `Rule.renamed_renamed`
    * `Rule.trim_renamed`
    * `Rule.braceBalance_renamed`
    * `Lines.map_renamed_set`
-/

namespace NotifyScope

namespace Rule

/- A line with the old name replaced. -/
def renamed
    (rule : Rule)
    (line : Line) : Line :=
  (rule.renameLine line).1

variable (rule : Rule)

theorem renamed_of_eq
    (hEq : rule.oldName = rule.newName)
    (line : Line) :
    rule.renamed line = line := by
  unfold renamed renameLine
  rw [if_pos hEq]

theorem renamed_of_ne
    (hNe : rule.oldName ≠ rule.newName)
    (line : Line) :
    rule.renamed line =
      (Identifier.rename rule.oldName rule.newName
        line).1 := by
  unfold renamed renameLine
  rw [if_neg hNe]

@[simp] theorem renamed_nil : rule.renamed [] = [] := by
  by_cases hEq : rule.oldName = rule.newName
  · exact rule.renamed_of_eq hEq []
  · rw [rule.renamed_of_ne hEq,
      Identifier.rename_eq_tokens rule.oldName_isName]
    rfl

/- Renaming a line twice is renaming it once. -/
@[simp] theorem renamed_renamed
    (line : Line) :
    rule.renamed (rule.renamed line) =
      rule.renamed line := by
  by_cases hEq : rule.oldName = rule.newName
  · rw [rule.renamed_of_eq hEq, rule.renamed_of_eq hEq]
  · rw [rule.renamed_of_ne hEq, rule.renamed_of_ne hEq,
      Identifier.rename_rename rule.oldName_isName
        rule.newName_isName hEq]

/- A line that is renamed holds no more old names. -/
theorem renameLine_renamed
    (line : Line) :
    rule.renameLine (rule.renamed line) =
      (rule.renamed line, 0) := by
  by_cases hEq : rule.oldName = rule.newName
  · unfold renameLine
    rw [if_pos hEq]
  · rw [rule.renamed_of_ne hEq]
    unfold renameLine
    rw [if_neg hEq]
    exact Identifier.rename_rename rule.oldName_isName
      rule.newName_isName hEq line

/- It makes no difference whether a line is trimmed first. -/
theorem trim_renamed
    (line : Line) :
    Text.trim (rule.renamed line) =
      rule.renamed (Text.trim line) := by
  by_cases hEq : rule.oldName = rule.newName
  · rw [rule.renamed_of_eq hEq, rule.renamed_of_eq hEq]
  · rw [rule.renamed_of_ne hEq, rule.renamed_of_ne hEq]
    exact Identifier.trim_rename rule.oldName_isName
      rule.newName_isName line

/- As many names are replaced in a trimmed line. -/
theorem renameLine_count_trim
    (line : Line) :
    (rule.renameLine (Text.trim line)).2 =
      (rule.renameLine line).2 := by
  unfold renameLine
  split
  · rfl
  · exact Identifier.rename_count_trim rule.oldName_isName
      rule.newName line

/- What renaming does to a line, it does to its middle. -/
theorem renamed_eq_of_trim
    {line : Line}
    (hTrim :
      rule.renamed (Text.trim line) = Text.trim line) :
    rule.renamed line = line := by
  by_cases hEq : rule.oldName = rule.newName
  · exact rule.renamed_of_eq hEq line
  · rw [rule.renamed_of_ne hEq] at hTrim ⊢
    rcases Identifier.exists_eq_append_rename
        rule.oldName_isName rule.newName line with
      ⟨front, back, _, _, hLine, hRename⟩
    rw [hRename, hTrim]
    exact hLine.symm

/- A line that is like a renamed one is renamed itself. -/
theorem renamed_eq_of_trim_eq
    {line other : Line}
    (hTrim :
      Text.trim (rule.renamed other) = Text.trim line) :
    rule.renamed line = line := by
  apply rule.renamed_eq_of_trim
  rw [← hTrim, ← rule.trim_renamed, rule.renamed_renamed]

theorem braceBalance_renamed
    (line : Line) :
    Line.braceBalance (rule.renamed line) =
      Line.braceBalance line := by
  by_cases hEq : rule.oldName = rule.newName
  · rw [rule.renamed_of_eq hEq]
  · rw [rule.renamed_of_ne hEq]
    exact Identifier.braceBalance_rename
      rule.oldName_isName rule.newName_isName line

theorem allBlank_renamed
    (line : Line) :
    Text.allBlank (rule.renamed line) =
      Text.allBlank line := by
  by_cases hEq : rule.oldName = rule.newName
  · rw [rule.renamed_of_eq hEq]
  · rw [rule.renamed_of_ne hEq]
    exact Identifier.allBlank_rename rule.oldName_isName
      rule.newName_isName line

end Rule

------------------------------------------------------------
-- Lists of Lines
------------------------------------------------------------

namespace Lines

/- Renaming every line. -/
theorem renameAll_fst
    (rule : Rule)
    (lines : Lines) :
    (renameAll rule lines).1 = lines.map rule.renamed := by
  simp only [renameAll, List.map_map]
  rfl

/- Renaming one line first makes no difference. -/
theorem map_renamed_set
    (rule : Rule)
    (lines : Lines)
    (i : Nat) :
    (lines.set i (rule.renamed (get lines i))).map
        rule.renamed =
      lines.map rule.renamed := by
  rw [List.map_set, rule.renamed_renamed]
  by_cases hLess : i < lines.length
  · rw [get_eq_getElem hLess, ← List.getElem_map rule.renamed,
      List.set_getElem_self]
    rw [List.length_map]
    exact hLess
  · rw [List.set_eq_of_length_le]
    rw [List.length_map]
    exact Nat.le_of_not_lt hLess

end Lines

------------------------------------------------------------
-- Declarations
------------------------------------------------------------

namespace Method

variable {rule : Rule}

/- A declaration without a marker to put above it. -/
theorem renameDeclaration_of_none
    (method : Method)
    (lines : Lines)
    (hMarker : rule.marker = none) :
    (method.renameDeclaration rule lines).1 =
      lines.set method.start
        (rule.renamed (Lines.get lines method.start)) := by
  unfold renameDeclaration
  rw [hMarker]
  rfl

/- A declaration with its marker. -/
theorem renameDeclaration_of_some
    {marker : Line}
    (method : Method)
    (lines : Lines)
    (hMarker : rule.marker = some marker) :
    (method.renameDeclaration rule lines).1 =
      (Lines.insertMarker
        (lines.set method.start
          (rule.renamed (Lines.get lines method.start)))
        method.start method.indent marker).1 := by
  unfold renameDeclaration
  rw [hMarker]
  rfl

end Method

end NotifyScope
