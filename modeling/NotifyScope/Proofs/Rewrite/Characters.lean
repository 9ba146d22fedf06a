import NotifyScope.Proofs.Rewrite.Kinds
import NotifyScope.Proofs.Source.Lines

/-
  Where the characters of rewritten lines come from.  Each of
  them stands in the lines before the rewrite, in the texts of
  the rule or in the unit of indentation; so lines that have
  no newline in them get none.

  Key definitions include:
    * `Rule.Over`

  Main declarations:
    * `Rule.over_rewrite`
-/

namespace NotifyScope

namespace Rule

/-
  A rule that puts certain characters into a text only: those
  of the new name, the marker and the wrapper.
-/
structure Over
    (allowed : Char → Prop)
    (rule : Rule) : Prop where
  newName : ∀ c ∈ rule.newName, allowed c
  marker : ∀ marker ∈ rule.marker, ∀ c ∈ marker, allowed c
  wrapOpen : ∀ c ∈ rule.wrapOpen, allowed c
  wrapClose : ∀ c ∈ rule.wrapClose, allowed c

variable {allowed : Char → Prop}
variable {rule : Rule}

theorem allowed_append
    {left right : Text}
    (hLeft : ∀ c ∈ left, allowed c)
    (hRight : ∀ c ∈ right, allowed c) :
    ∀ c ∈ left ++ right, allowed c := by
  intro c hc
  rcases List.mem_append.mp hc with hc | hc
  · exact hLeft c hc
  · exact hRight c hc

open Identifier in
theorem Over.renamed
    (hRule : Over allowed rule)
    (line : Line)
    (hLine : ∀ c ∈ line, allowed c) :
    ∀ c ∈ rule.renamed line, allowed c := by
  by_cases hEq : rule.oldName = rule.newName
  · rw [rule.renamed_of_eq hEq]
    exact hLine
  · rw [rule.renamed_of_ne hEq,
      rename_eq_tokens rule.oldName_isName]
    intro c hc
    rcases List.mem_flatten.mp hc with ⟨token, hToken, hIn⟩
    rcases List.mem_map.mp hToken with ⟨before, hBefore, rfl⟩
    unfold replaceToken at hIn
    split at hIn
    · exact hRule.newName c hIn
    · apply hLine
      rw [← flatten_tokens line]
      exact List.mem_flatten_of_mem hBefore hIn

/- Lines that are made of certain characters only. -/
theorem Over.closed
    (hRule : Over allowed rule) :
    rule.Closed (∀ c ∈ ·, allowed c) (∀ c ∈ ·, allowed c) where
  nil := fun _ hc => absurd hc List.not_mem_nil
  leading hLine := fun c hc =>
    hLine c (List.takeWhile_subset _ hc)
  cut hText n := fun c hc =>
    hText c (List.drop_subset n _ hc)
  join := allowed_append
  push := allowed_append
  pull hLine _ := fun c hc =>
    hLine c (List.drop_subset _ _ hc)
  renamed := hRule.renamed
  marker := hRule.marker
  wrapOpen := hRule.wrapOpen
  wrapClose := hRule.wrapClose

/- A rule without newlines in it puts none into a text. -/
theorem over_of_not_mem
    (hMarker : ∀ marker ∈ rule.marker, '\n' ∉ marker)
    (hOpen : '\n' ∉ rule.wrapOpen)
    (hClose : '\n' ∉ rule.wrapClose) :
    rule.Over (· ≠ '\n') := by
  have hNe : ∀ {text : Text}, '\n' ∉ text →
      ∀ c ∈ text, c ≠ '\n' :=
    fun hText c hc hEq => hText (hEq ▸ hc)
  refine ⟨hNe ?_,
    fun marker hMem => hNe (hMarker marker hMem),
    hNe hOpen, hNe hClose⟩
  intro hMem
  have hPart :=
    Identifier.isPart_of_mem_isName rule.newName_isName _
      hMem
  rw [Identifier.isPart_of_isBlank (by decide)] at hPart
  cases hPart

/- A rewrite makes no characters up. -/
theorem over_rewrite
    {layout : Layout}
    {lines : Lines}
    (hRule : rule.Over allowed)
    (hUnit : ∀ c ∈ layout.unit, allowed c)
    (hLines : Lines.Over allowed lines) :
    Lines.Over allowed
      (rule.rewrite layout (rule.survey layout lines)
        lines).lines :=
  all_rewrite hRule.closed hUnit hLines

end Rule

end NotifyScope
