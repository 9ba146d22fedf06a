import NotifyScope.Proofs.Identifier.Occurrence
import NotifyScope.Proofs.Rewrite.Settled

/-
  References to the old name.  A rule that finds a declaration
  renames every line in the end, the lines that it has put in
  included, so no reference to the old name is left in any of
  them; and it does so where no declaration closes, too.

  Main declarations:
    * `Rule.not_occurs_renamed`
    * `Rule.no_reference_left_by_apply`
-/

namespace NotifyScope

namespace Rule

variable {rule : Rule}
variable {layout : Layout}
variable {lines : Lines}

/- A renamed line does not mention the old name. -/
theorem not_occurs_renamed
    (hNe : rule.oldName ≠ rule.newName)
    (line : Line) :
    ¬Identifier.Occurs rule.oldName (rule.renamed line) := by
  rw [rule.renamed_of_ne hNe]
  exact Identifier.not_occurs_rename rule.oldName_isName
    rule.newName_isName hNe line

/- Nor does any line that a rule leaves after its work. -/
theorem not_occurs_of_mem_rewrite
    (hNe : rule.oldName ≠ rule.newName)
    {survey : Survey}
    (hFound : survey.isEmpty = false) :
    ∀ line ∈ (rule.rewrite layout survey lines).lines,
      ¬Identifier.Occurs rule.oldName line := by
  intro line hLine
  rw [(rewrite_of_found hFound).1, Lines.renameAll_fst]
    at hLine
  rcases List.mem_map.mp hLine with ⟨other, _, rfl⟩
  exact not_occurs_renamed hNe other

/-
  Where a rule with two different names finds a declaration,
  closed or not, and no nested one, it leaves no line that
  mentions the old name.
-/
theorem no_reference_left_by_apply
    (rule : Rule)
    (layout : Layout)
    (lines : Lines)
    (hNe : rule.oldName ≠ rule.newName)
    (hConflict :
      (rule.survey layout lines).conflict = none)
    (hFound :
      (rule.survey layout lines).methods ≠ [] ∨
        (rule.survey layout lines).unbalanced ≠ []) :
    ∃ work,
      rule.apply layout lines =
          .ok
            (work,
              (rule.survey layout lines).unbalanced) ∧
        ∀ line ∈ work.lines,
          ¬Identifier.Occurs rule.oldName line := by
  have hEmpty :
      (rule.survey layout lines).isEmpty = false := by
    unfold Survey.isEmpty
    rw [Bool.and_eq_false_iff, List.isEmpty_eq_false_iff,
      List.isEmpty_eq_false_iff]
    exact hFound
  exact ⟨_, apply_of_conflict_eq_none hConflict,
    not_occurs_of_mem_rewrite hNe hEmpty⟩

/- A declaration without an end, and a call behind it. -/
theorem no_reference_left_by_apply_unbalanced :
    let layout : Layout :=
      { unit := "  ".toList, reindent := true }
    let lines : Lines :=
      ["void _generateQuestion() \x7b".toList,
        "  if (x_generateQuestion) \x7b".toList,
        "    _generateQuestion();".toList]
    standard.oldName ≠ standard.newName ∧
      (standard.survey layout lines).conflict = none ∧
        ((standard.survey layout lines).methods ≠ [] ∨
          (standard.survey layout lines).unbalanced ≠ []) ∧
          ∃ work,
            standard.apply layout lines =
                .ok
                  (work,
                    (standard.survey layout
                      lines).unbalanced) ∧
              ∀ line ∈ work.lines,
                ¬Identifier.Occurs standard.oldName
                  line := by
  intro layout lines
  have hNe : standard.oldName ≠ standard.newName := by
    decide
  have hConflict :
      (standard.survey layout lines).conflict = none := rfl
  have hUnbalanced :
      (standard.survey layout lines).unbalanced = [0] := rfl
  have hFound :
      (standard.survey layout lines).methods ≠ [] ∨
        (standard.survey layout lines).unbalanced ≠ [] := by
    rw [hUnbalanced]
    exact .inr (List.cons_ne_nil 0 [])
  exact ⟨hNe, hConflict, hFound,
    no_reference_left_by_apply standard layout lines hNe
      hConflict hFound⟩

end Rule

end NotifyScope
