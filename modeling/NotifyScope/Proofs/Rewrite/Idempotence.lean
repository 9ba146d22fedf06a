import NotifyScope.Proofs.Document.Outcome
import NotifyScope.Proofs.Rewrite.Characters
import NotifyScope.Proofs.Rewrite.Unchanged

/-
  Rewriting the text that a rewrite leaves.  The second pass
  keeps that text exactly if its search meets a conflict or
  finds settled methods only.  Some texts leave others than
  these: a line that closes several blocks ends a method, but
  not the wrapper that is put around its body.

  Main declarations:
    * `Document.rewritten_eq_of_settled`
    * `Document.settled_of_rewritten_eq`
    * `Document.rewrite_rewritten_eq_iff`
-/

------------------------------------------------------------
-- One Rule
------------------------------------------------------------

namespace NotifyScope

/- Lines that match renamed ones are renamed. -/
theorem Lines.Renamed.of_matches
    {rule : Rule}
    {left right : Lines}
    (hRenamed : Lines.Renamed rule right)
    (hMatches : Lines.Matches left right) :
    Lines.Renamed rule left := by
  have hRight : ∀ i,
      rule.renamed (Lines.get right i) =
        Lines.get right i := by
    intro i
    by_cases hLess : i < right.length
    · unfold Rule.renamed
      rw [hRenamed.get hLess]
    · rw [Lines.get_of_length_le (Nat.le_of_not_lt hLess),
        rule.renamed_nil]
  intro line hLine
  rcases List.mem_iff_getElem.mp hLine with ⟨i, hi, rfl⟩
  rw [← Lines.get_eq_getElem hi]
  have hTrim := (hMatches i).symm
  rw [← hRight i] at hTrim
  have hLineRenamed :=
    rule.renameLine_renamed (Lines.get left i)
  rw [rule.renamed_eq_of_trim_eq hTrim] at hLineRenamed
  exact hLineRenamed

/- What one rule makes of lines. -/
theorem Transform.run_singleton_lines
    (rule : Rule)
    (layout : Layout)
    (lines : Lines) :
    (Transform.run [rule] layout lines).lines =
      if (rule.survey layout lines).conflict.isSome then
        lines
      else
        (rule.rewrite layout (rule.survey layout lines)
          lines).lines := by
  unfold Transform.run Transform.applyRules
  simp only
  cases (rule.survey layout lines).conflict with
  | none => rfl
  | some conflict => rfl

namespace Document

variable {rule : Rule}
variable {layout : Layout}
variable {name : String}
variable {text : Text}

/- A conflict keeps the text. -/
theorem rewritten_of_conflict
    (hConflict :
      (rule.survey layout
        (Text.lines text)).conflict.isSome = true) :
    (rewrite [rule] layout name text).rewritten = text := by
  apply rewritten_of_lines_eq
  rw [Transform.run_singleton_lines, if_pos hConflict]

/- So do settled methods, with no old name left. -/
theorem rewritten_eq_of_settled
    (hMethods :
      ∀ method ∈
          (rule.survey layout (Text.lines text)).methods,
        Method.Settled rule (Text.lines text) method)
    (hRenamed : Lines.Renamed rule (Text.lines text)) :
    (rewrite [rule] layout name text).rewritten = text := by
  apply rewritten_of_lines_eq
  rw [Transform.run_singleton_lines]
  split
  · rfl
  · exact (Rule.rewrite_of_settled hMethods hRenamed).1

section Plain

variable (hOver : rule.Over (· ≠ '\n'))
variable (hUnitOver : ∀ c ∈ layout.unit, c ≠ '\n')

include hOver hUnitOver

/- The lines of the new text are those of the rewrite. -/
theorem matches_rewritten
    (name : String)
    (hConflict :
      (rule.survey layout (Text.lines text)).conflict =
        none) :
    Lines.Matches
      (Text.lines
        (rewrite [rule] layout name text).rewritten)
      (rule.rewrite layout
        (rule.survey layout (Text.lines text))
        (Text.lines text)).lines := by
  have hRun :=
    Transform.run_singleton_lines rule layout
      (Text.lines text)
  rw [hConflict, if_neg (by decide)] at hRun
  by_cases hEq :
      (Transform.run [rule] layout (Text.lines text)).lines =
        Text.lines text
  · rw [rewritten_of_lines_eq hEq, ← hRun, hEq]
    exact fun i => rfl
  · have hSource :
        (Source.ofText text).lines = Text.lines text := rfl
    unfold rewrite
    simp only [hSource]
    rw [if_neg hEq, hRun]
    apply Source.matches_render
    apply Rule.over_rewrite hOver hUnitOver
    exact Text.over_lines fun c _ hNe => hNe

/- A text that a rewrite keeps has settled methods only. -/
theorem settled_of_rewritten_eq
    (hPlain : rule.Plain)
    (hMarker : ∀ marker ∈ rule.marker,
      Line.braceBalance marker ≠ 1)
    (hUnit : Text.allBlank layout.unit = true)
    (hEq : (rewrite [rule] layout name text).rewritten = text)
    (hConflict :
      (rule.survey layout (Text.lines text)).conflict =
        none) :
    ∀ method ∈
        (rule.survey layout (Text.lines text)).methods,
      Method.Settled rule (Text.lines text) method := by
  have hMatches :=
    matches_rewritten hOver hUnitOver name hConflict
  rw [hEq] at hMatches
  exact Rule.settled_of_rewrite hPlain hMarker hUnit
    hConflict hMatches.symm

/- A rewrite that does anything leaves no old name. -/
theorem renamed_rewritten
    (hNe : (rewrite [rule] layout name text).rewritten ≠ text) :
    Lines.Renamed rule
      (Text.lines
        (rewrite [rule] layout name text).rewritten) := by
  cases hConflict :
      (rule.survey layout (Text.lines text)).conflict with
  | some conflict =>
      exact absurd
        (rewritten_of_conflict
          (Option.isSome_iff_exists.mpr ⟨_, hConflict⟩)) hNe
  | none =>
      apply Lines.Renamed.of_matches ?_
        (matches_rewritten hOver hUnitOver name hConflict)
      unfold Rule.rewrite
      split
      · rename_i hEmpty
        refine absurd (rewritten_of_lines_eq ?_) hNe
        rw [Transform.run_singleton_lines, hConflict,
          if_neg (by decide)]
        unfold Rule.rewrite
        rw [if_pos hEmpty]
      · exact Lines.renamed_renameAll rule _

/- When rewriting a rewritten text does nothing. -/
theorem rewrite_rewritten_eq_iff_of_plain
    (hPlain : rule.Plain)
    (hMarker : ∀ marker ∈ rule.marker,
      Line.braceBalance marker ≠ 1)
    (hUnit : Text.allBlank layout.unit = true) :
    let once := (rewrite [rule] layout name text).rewritten
    let survey := rule.survey layout (Text.lines once)
    (rewrite [rule] layout name once).rewritten = once ↔
      survey.conflict.isSome = true ∨
        ∀ method ∈ survey.methods,
          Method.Settled rule (Text.lines once) method := by
  intro once survey
  constructor
  · intro hEq
    cases hConflict : survey.conflict with
    | some conflict => exact .inl rfl
    | none =>
        exact .inr
          (settled_of_rewritten_eq hOver hUnitOver hPlain
            hMarker hUnit hEq hConflict)
  · rintro (hConflict | hMethods)
    · exact rewritten_of_conflict hConflict
    · by_cases hKept : once = text
      · have hOnce :
            (rewrite [rule] layout name text).rewritten =
              once := rfl
        rw [← hKept] at hOnce
        exact hOnce
      · exact rewritten_eq_of_settled hMethods
          (renamed_rewritten hOver hUnitOver hKept)

end Plain

------------------------------------------------------------
-- The Built-in Rule
------------------------------------------------------------

/-
  A second pass over the text that the built-in rule leaves
  does nothing exactly if a conflict stops it, or if every
  method that it finds is canonical, has the new name and
  stands below its marker.
-/
theorem rewrite_rewritten_eq_iff
    (width : Nat)
    (reindent : Bool)
    (name : String)
    (text : Text) :
    let layout : Layout :=
      { unit := List.replicate width ' ', reindent }
    let once :=
      (rewrite [Rule.standard] layout name text).rewritten
    let survey :=
      Rule.standard.survey layout (Text.lines once)
    (rewrite [Rule.standard] layout name once).rewritten =
        once ↔
      survey.conflict.isSome = true ∨
        ∀ method ∈ survey.methods,
          Method.Settled Rule.standard (Text.lines once)
            method := by
  intro layout
  apply rewrite_rewritten_eq_iff_of_plain
  · constructor
    · exact fun c hc => ne_of_mem_of_not_mem hc (by decide)
    · intro marker hSome
      cases hSome
      exact fun c hc => ne_of_mem_of_not_mem hc (by decide)
    · exact fun c hc => ne_of_mem_of_not_mem hc (by decide)
    · exact fun c hc => ne_of_mem_of_not_mem hc (by decide)
  · intro c hc
    rw [List.eq_of_mem_replicate hc]
    decide
  · exact Rule.plain_standard
  · intro marker hSome
    cases hSome
    decide +kernel
  · unfold Text.allBlank
    rw [List.all_eq_true]
    intro c hc
    rw [List.eq_of_mem_replicate hc]
    rfl

/-
  A method that ends on a line with two braces is wrapped by
  the first pass and again by the second one.
-/
theorem rewrite_rewritten_ne :
    let layout : Layout :=
      { unit := "  ".toList, reindent := true }
    let text : Text :=
      ("void _generateQuestion() \x7b\n" ++
        "  if (x) \x7b\n" ++
        "    a();\n" ++
        "\x7d\x7d\n").toList
    let once :=
      (rewrite [Rule.standard] layout "test.dart"
        text).rewritten
    (rewrite [Rule.standard] layout "test.dart"
      once).rewritten ≠ once := by
  decide +kernel

end Document

end NotifyScope
