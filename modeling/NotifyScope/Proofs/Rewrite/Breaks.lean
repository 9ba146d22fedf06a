import NotifyScope.Proofs.Method.Context
import NotifyScope.Proofs.Rewrite.Characters
import NotifyScope.Proofs.Wrapper.Collapse

/-
  Lines that stay lines.  A rule without newlines in its
  texts writes no line that would come apart, or lose a
  character, when the lines are put together and taken apart
  again; and it never removes all of them.

  Key definitions include:
    * `Line.Whole`
    * `Rule.Unbroken`

  Main declarations:
    * `Rule.Unbroken.closed`
    * `Rule.rewrite_ne_nil`
-/

namespace NotifyScope

------------------------------------------------------------
-- Whole Lines
------------------------------------------------------------

/-
  A line without a newline in it, and without a carriage
  return at its end.  The white space in front may end up on
  a line of its own, so it has no carriage return either.
-/
structure Line.Whole
    (line : Line) : Prop where
  newline : '\n' ∉ line
  leading : '\r' ∉ Text.leading line
  last : line.getLast? ≠ some '\r'

namespace Text

/- White space without line breaks. -/
def IsMargin
    (text : Text) : Prop :=
  ∀ c ∈ text, isBlank c = true ∧ c ≠ '\n' ∧ c ≠ '\r'

theorem IsMargin.allBlank
    {text : Text}
    (hText : IsMargin text) :
    allBlank text = true :=
  List.all_eq_true.mpr fun c hc => (hText c hc).1

end Text

namespace Line

open Text

variable {text : Text}
variable {line : Line}

/- What stands in front of a whole line has no breaks. -/
theorem Whole.margin
    (hLine : Whole line) :
    IsMargin (Text.leading line) := by
  intro c hc
  have hMem : c ∈ line := List.takeWhile_subset _ hc
  exact ⟨List.mem_takeWhile_imp hc,
    fun hEq => hLine.newline (hEq ▸ hMem),
    fun hEq => hLine.leading (hEq ▸ hc)⟩

/- A text that starts and ends in no white space. -/
theorem whole_of_trim
    (hTrim : trim text = text)
    (hNewline : '\n' ∉ text) :
    Whole text where
  newline := hNewline
  leading := by
    rw [leading_eq_nil]
    · exact List.not_mem_nil
    · intro c hc
      rw [← hTrim] at hc
      exact isBlank_of_mem_head?_trim hc
  last := by
    intro hLast
    rw [← hTrim] at hLast
    have hBlank := isBlank_of_mem_getLast?_trim hLast
    revert hBlank
    decide

theorem whole_push
    (hText : IsMargin text)
    (hLine : Whole line) :
    Whole (text ++ line) where
  newline := by
    rw [List.mem_append, not_or]
    exact ⟨fun hMem => (hText _ hMem).2.1 rfl, hLine.newline⟩
  leading := by
    rw [leading_append_left line hText.allBlank,
      List.mem_append, not_or]
    exact ⟨fun hMem => (hText _ hMem).2.2 rfl, hLine.leading⟩
  last := by
    cases line with
    | nil =>
        rw [List.append_nil]
        exact fun hLast =>
          (hText _ (List.mem_of_getLast? hLast)).2.2 rfl
    | cons c rest =>
        rw [List.getLast?_append_of_ne_nil _
          (List.cons_ne_nil c rest)]
        exact hLine.last

theorem whole_pull
    {n : Nat}
    (hLine : Whole line)
    (hLe : n ≤ (Text.leading line).length) :
    Whole (line.drop n) where
  newline hMem := hLine.newline (List.drop_subset _ _ hMem)
  leading hMem := by
    have hDrop :
        line.drop n =
          (Text.leading line).drop n ++ trimLeft line := by
      conv_lhs => rw [← leading_append_trimLeft line]
      exact List.drop_append_of_le_length hLe
    have hBlank :
        allBlank ((Text.leading line).drop n) = true :=
      List.all_eq_true.mpr fun c hc =>
        List.mem_takeWhile_imp (List.drop_subset _ _ hc)
    rw [hDrop, leading_append_left _ hBlank, leading_trimLeft,
      List.append_nil] at hMem
    exact hLine.leading (List.drop_subset _ _ hMem)
  last := by
    rw [List.getLast?_drop]
    split
    · exact nofun
    · exact hLine.last

end Line

------------------------------------------------------------
-- Rules
------------------------------------------------------------

namespace Rule

variable {rule : Rule}

open Identifier in
/- The white space in front of a line is not renamed. -/
theorem leading_renamed
    (rule : Rule)
    (line : Line) :
    Text.leading (rule.renamed line) = Text.leading line := by
  by_cases hEq : rule.oldName = rule.newName
  · rw [rule.renamed_of_eq hEq]
  · have hBlank := Text.allBlank_leading line
    have hRest :
        ∀ c ∈ (rename rule.oldName rule.newName
            (Text.trimLeft line)).1.head?,
          Text.isBlank c = false := by
      apply isBlank_of_mem_head?_rename rule.oldName_isName
        rule.newName_isName
      intro c hc
      obtain ⟨rest, hRest⟩ := List.head?_eq_some_iff.mp hc
      exact Text.isBlank_head_trimLeft hRest
    rw [rule.renamed_of_ne hEq]
    conv_lhs => rw [← Text.leading_append_trimLeft line]
    rw [rename_append rule.oldName_isName _
        (apart_of_allBlank_left _ hBlank),
      rename_of_allBlank rule.oldName_isName _ hBlank,
      Text.leading_append_left _ hBlank,
      Text.leading_eq_nil hRest, List.append_nil]

open Identifier in
/- Nor does renaming put white space at the end of a line. -/
theorem getLast?_renamed
    {line : Line}
    {c : Char}
    (hBlank : Text.isBlank c = true)
    (hLast : (rule.renamed line).getLast? = some c) :
    line.getLast? = some c := by
  by_cases hEq : rule.oldName = rule.newName
  · rwa [rule.renamed_of_eq hEq] at hLast
  · rw [rule.renamed_of_ne hEq] at hLast
    rcases exists_eq_append_rename rule.oldName_isName
        rule.newName line with
      ⟨front, back, _, _, hLine, hRenamed⟩
    rw [hRenamed] at hLast
    rw [hLine]
    rcases List.eq_nil_or_concat' back with
      rfl | ⟨back, d, rfl⟩
    · rw [List.append_nil] at hLast ⊢
      by_cases hTrim : Text.trim line = []
      · rw [hTrim] at hLast ⊢
        rwa [rename_of_allBlank rule.oldName_isName _ rfl]
          at hLast
      · -- A renamed text that is trimmed ends in no white space.
        have hNe := rename_ne_nil rule.oldName_isName
          rule.newName_isName hTrim
        rw [List.getLast?_append_of_ne_nil _ hNe] at hLast
        have hFilled :=
          isBlank_of_mem_getLast?_rename rule.oldName_isName
            rule.newName_isName
            (fun _ => Text.isBlank_of_mem_getLast?_trim) c
            hLast
        rw [hBlank] at hFilled
        cases hFilled
    · simpa only [← List.append_assoc, List.getLast?_concat]
        using hLast

/- A rule without newlines in the texts that it writes. -/
structure Unbroken
    (rule : Rule) : Prop where
  marker : ∀ marker ∈ rule.marker, '\n' ∉ marker
  wrapOpen : '\n' ∉ rule.wrapOpen
  wrapClose : '\n' ∉ rule.wrapClose

theorem Unbroken.over
    (hRule : rule.Unbroken) :
    rule.Over (· ≠ '\n') :=
  over_of_not_mem hRule.marker hRule.wrapOpen hRule.wrapClose

/- A rewrite by such a rule leaves whole lines whole. -/
theorem Unbroken.closed
    (hRule : rule.Unbroken) :
    rule.Closed Text.IsMargin Line.Whole where
  nil := ⟨List.not_mem_nil, List.not_mem_nil, nofun⟩
  leading := Line.Whole.margin
  cut hText n := fun c hc => hText c (List.drop_subset n _ hc)
  join hLeft hRight := fun c hc =>
    (List.mem_append.mp hc).elim (hLeft c) (hRight c)
  push := Line.whole_push
  pull := Line.whole_pull
  renamed line hLine :=
    { newline := fun hMem =>
        hRule.over.renamed line
          (fun _ hc => ne_of_mem_of_not_mem hc hLine.newline)
          '\n' hMem rfl
      leading := by
        rw [rule.leading_renamed]
        exact hLine.leading
      last := fun hLast =>
        hLine.last (getLast?_renamed (by decide) hLast) }
  marker marker hMem :=
    Line.whole_of_trim (rule.marker_trim marker hMem).2
      (hRule.marker marker hMem)
  wrapOpen :=
    Line.whole_of_trim rule.wrapOpen_trim hRule.wrapOpen
  wrapClose :=
    Line.whole_of_trim rule.wrapClose_trim hRule.wrapClose

end Rule

------------------------------------------------------------
-- Lines That Remain
------------------------------------------------------------

namespace Repair

variable {rule : Rule}
variable {start : Nat}
variable {lines : Lines}

/- A repair removes lines behind the declaration only. -/
theorem settle_ne_nil
    (hLines : lines ≠ []) :
    (settle rule start lines).1 ≠ [] := by
  apply settle_invariant (· ≠ []) ?_ ?_ hLines
  · intro before after _ hCollapse
    rcases collapse?_eq_some_iff.mp hCollapse with
      ⟨stop, first, pair, hClose, hFirst, _, hPair, hOuter, rfl⟩
    have hOrder := Wrapper.order_of_stackedAt? hPair
    have hStart := Lines.le_nextFilled? hFirst
    have hStop := Block.close?_lt_length hClose
    rw [← List.length_pos_iff, length_collapsed (by omega)
      (by omega)]
    omega
  · intro before after _ hDrop
    rcases dropSurplus?_eq_some_iff.mp hDrop with
      ⟨stop, _, hClose, _, _, rfl⟩
    have hLess := Block.lt_close? hClose
    have hStop := Block.close?_lt_length hClose
    rw [← List.length_pos_iff, List.length_eraseIdx,
      if_pos hStop]
    omega

end Repair

namespace Method

variable {rule : Rule}
variable {method : Method}
variable {lines : Lines}

theorem rewriteBody_ne_nil
    (reindent : Bool)
    (hLines : lines ≠ []) :
    (method.rewriteBody rule reindent lines).lines ≠ [] := by
  have hRepair : (method.repair rule lines).1 ≠ [] := by
    unfold repair
    simp only
    rw [← List.length_pos_iff, Repair.length_normalize,
      List.length_pos_iff]
    exact Repair.settle_ne_nil hLines
  unfold rewriteBody
  simp only
  split
  · unfold wrap
    simp
  · exact hLines
  · exact hRepair
  · exact hRepair

theorem renameDeclaration_ne_nil
    (hLines : lines ≠ []) :
    (method.renameDeclaration rule lines).1 ≠ [] := by
  have hSet :
      lines.set method.start
        (rule.renamed (Lines.get lines method.start)) ≠ [] := by
    simpa using hLines
  cases hMarker : rule.marker with
  | none =>
      rw [renameDeclaration_of_none method lines hMarker]
      exact hSet
  | some marker =>
      rw [renameDeclaration_of_some method lines hMarker]
      unfold Lines.insertMarker
      split
      · exact hSet
      · rw [← List.length_pos_iff, List.length_insertIdx]
        have hPos := List.length_pos_iff.mpr hSet
        split <;> omega

theorem rewriteAll_ne_nil
    (reindent : Bool)
    (methods : List Method)
    (hLines : lines ≠ []) :
    (rewriteAll rule reindent methods lines).lines ≠ [] := by
  induction methods with
  | nil => exact hLines
  | cons method methods ih =>
      exact renameDeclaration_ne_nil
        (rewriteBody_ne_nil reindent ih)

end Method

------------------------------------------------------------
-- A Whole Rule
------------------------------------------------------------

namespace Rule

variable {rule : Rule}
variable {layout : Layout}
variable {lines : Lines}

/- Lines are left, since a declaration is never removed. -/
theorem rewrite_ne_nil
    (hLines : lines ≠ []) :
    (rule.rewrite layout (rule.survey layout lines)
      lines).lines ≠ [] := by
  unfold rewrite
  split
  · exact hLines
  · simp only [Lines.renameAll_fst, ne_eq, List.map_eq_nil_iff]
    exact Method.rewriteAll_ne_nil _ _ hLines

end Rule

end NotifyScope
