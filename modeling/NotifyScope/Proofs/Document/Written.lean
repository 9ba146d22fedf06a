import Mathlib.Data.List.Infix
import NotifyScope.Proofs.Document.Outcome
import NotifyScope.Proofs.Rewrite.Breaks
import NotifyScope.Proofs.Rule.Standard
import NotifyScope.Proofs.Source.RoundTrip

/-
  What is written when a text has changed.  The lines that
  the rules have made are whole, so they are found again in
  the text that is written; and all of them end as most lines
  of the text did before.

  Key definitions include:
    * `Text.Paired`

  Main declarations:
    * `Source.lines_render`
    * `Transform.run_lines_whole`
    * `Document.rewritten_keeps_lines`
-/

------------------------------------------------------------
-- Carriage Returns
------------------------------------------------------------

namespace NotifyScope

namespace Text

/- Whether a newline follows on every carriage return. -/
def Paired
    (text : Text) : Prop :=
  ∀ front rest, text = front ++ '\r' :: rest →
    rest.head? = some '\n'

instance
    (text : Text) :
    Decidable (Paired text) :=
  decidable_of_iff
    (∀ tail ∈ text.tails, tail.head? = some '\r' →
      tail.tail.head? = some '\n') <| by
    simp only [List.mem_tails]
    constructor
    · rintro hTails front rest rfl
      exact hTails _ (List.suffix_append front _) rfl
    · rintro hPaired tail ⟨front, rfl⟩ hHead
      obtain ⟨rest, rfl⟩ := List.head?_eq_some_iff.mp hHead
      exact hPaired front rest rfl

/- In front of a newline, a return can only be the last. -/
theorem not_mem_dropReturn_of_paired
    {line rest : Text}
    (hLine : '\n' ∉ line)
    (hPaired : Paired (line ++ rest)) :
    '\r' ∉ dropReturn line := by
  rcases List.eq_nil_or_concat' line with
    rfl | ⟨front, c, rfl⟩
  · exact List.not_mem_nil
  · have hFront : '\r' ∉ front := by
      intro hMem
      obtain ⟨first, second, rfl⟩ := List.append_of_mem hMem
      have hHead :
          (second ++ [c] ++ rest).head? = some '\n' :=
        hPaired first _ (by simp)
      rw [List.head?_append_of_ne_nil _ (by simp)] at hHead
      apply hLine
      rw [List.append_assoc]
      exact List.mem_append_right _
        (List.mem_cons_of_mem _ (List.mem_of_head? hHead))
    unfold dropReturn
    rw [List.getLast?_concat, List.dropLast_concat]
    split
    · exact hFront
    · rename_i hLast
      rw [Option.some.injEq] at hLast
      simpa [hFront] using Ne.symm hLast

/- A text without lone returns has none in its lines. -/
theorem not_mem_lines_of_paired
    {text : Text}
    (hPaired : Paired text) :
    ∀ line ∈ lines text, '\r' ∉ line := by
  induction text using line_induction with
  | last line hLine =>
      have hNone : '\r' ∉ line := by
        intro hMem
        obtain ⟨front, rest, rfl⟩ := List.append_of_mem hMem
        have hHead := hPaired front rest rfl
        apply hLine
        apply List.mem_append_right
        exact List.mem_cons_of_mem _ (List.mem_of_head? hHead)
      rw [lines_of_not_mem_newline hLine,
        dropReturn_of_not_mem hNone]
      split <;> simp [hNone]
  | next line rest hLine ih =>
      rw [lines_append hLine]
      have hRest : Paired rest := by
        rintro front behind rfl
        exact hPaired (line ++ '\n' :: front) behind (by simp)
      intro other hOther
      rcases List.mem_cons.mp hOther with rfl | hOther
      · exact not_mem_dropReturn_of_paired hLine hPaired
      · exact ih hRest other hOther

end Text

------------------------------------------------------------
-- Written Lines
------------------------------------------------------------

namespace Source

open Text

/- A line that is written with its ending, up to the newline. -/
theorem exists_written_line
    (ending : LineEnding)
    {line : Line}
    (hLine : line.Whole) :
    ∃ written,
      '\n' ∉ written ∧ dropReturn written = line ∧
        (written.getLast? = some '\r' ↔ ending = .crLf) ∧
          ∀ rest,
            line ++ (ending.text ++ rest) =
              written ++ '\n' :: rest := by
  cases ending with
  | lf =>
      refine ⟨line, hLine.newline,
        (dropReturn_eq_iff line).mpr hLine.last, ?_,
        fun _ => rfl⟩
      exact iff_of_false hLine.last nofun
  | crLf =>
      refine ⟨line ++ ['\r'], ?_, ?_, ?_, fun rest => ?_⟩
      · simpa using hLine.newline
      · unfold dropReturn
        rw [List.getLast?_concat, if_pos rfl,
          List.dropLast_concat]
      · exact iff_of_true List.getLast?_concat rfl
      · simp [LineEnding.text]

/-
  Whole lines that are written are found again, each of them
  in the same ending.
-/
theorem lines_render
    (ending : LineEnding)
    {lines : Lines}
    (hNe : lines ≠ [])
    (hWhole : Lines.All Line.Whole lines) :
    let written :=
      render { lines, ending, endsInNewline := true }
    Text.lines written = lines ∧
      Uniform ending written ∧
        written.getLast? = some '\n' := by
  induction lines with
  | nil => exact absurd rfl hNe
  | cons line lines ih =>
      obtain ⟨written, hWritten, hDrop, hReturn, hText⟩ :=
        exists_written_line ending
          (hWhole line List.mem_cons_self)
      intro text
      cases lines with
      | nil =>
          have hRest : text = written ++ '\n' :: [] := by
            rw [← hText]
            simp [text, render]
          rw [hRest, lines_append hWritten, hDrop,
            uniform_append_iff hWritten]
          exact ⟨rfl,
            ⟨hReturn, uniform_of_not_mem List.not_mem_nil⟩,
            List.getLast?_concat⟩
      | cons next lines =>
          obtain ⟨hLines, hUniform, hLast⟩ :=
            ih (List.cons_ne_nil next lines) fun other hOther =>
              hWhole other (List.mem_cons_of_mem _ hOther)
          have hRest :
              text =
                written ++ '\n' ::
                  render
                    { lines := next :: lines
                      ending
                      endsInNewline := true } := by
            rw [← hText]
            simp [text, render]
          generalize
            render
              { lines := next :: lines
                ending
                endsInNewline := true } = rest
              at hLines hUniform hLast hRest
          rw [hRest, lines_append hWritten, hDrop, hLines,
            uniform_append_iff hWritten]
          refine ⟨rfl, ⟨hReturn, hUniform⟩, ?_⟩
          rw [List.getLast?_append_cons, List.getLast?_cons,
            hLast]
          rfl

end Source

------------------------------------------------------------
-- Rewritten Texts
------------------------------------------------------------

namespace Transform

/- The rules leave whole lines, and do not remove them all. -/
theorem run_lines_whole
    {rules : List Rule}
    {layout : Layout}
    {lines : Lines}
    (hRules : ∀ rule ∈ rules, rule.Unbroken)
    (hUnit : Text.IsMargin layout.unit)
    (hNe : lines ≠ [])
    (hLines : Lines.All Line.Whole lines) :
    (run rules layout lines).lines ≠ [] ∧
      Lines.All Line.Whole (run rules layout lines).lines := by
  apply run_lines_invariant fun lines =>
    lines ≠ [] ∧ Lines.All Line.Whole lines
  · rintro rule hRule before ⟨hBefore, hWhole⟩
    exact ⟨Rule.rewrite_ne_nil hBefore,
      Rule.all_rewrite (hRules rule hRule).closed hUnit hWhole⟩
  · exact ⟨hNe, hLines⟩

end Transform

namespace Document

/-
  A text that has changed is written with the lines that the
  rules have made of it, neither more nor less.  Each of them
  ends in a newline, which follows a carriage return if that
  is how most lines of the text ended.
-/
theorem rewritten_keeps_lines
    (rules : List Rule)
    (width : Nat)
    (reindent : Bool)
    (name : String)
    (text : Text)
    (hLast : text.getLast? = some '\n')
    (hPaired : Text.Paired text)
    (hRules : ∀ rule ∈ rules, rule.Unbroken) :
    let layout : Layout :=
      { unit := List.replicate width ' ', reindent }
    let written := (rewrite rules layout name text).rewritten
    let crLf := Text.countCrLf text
    let lf := text.count '\n' - crLf
    written ≠ text →
      Text.lines written =
          (Transform.run rules layout (Text.lines text)).lines ∧
        Text.Uniform (if lf < crLf then .crLf else .lf)
            written ∧
          written.getLast? = some '\n' := by
  intro layout written crLf lf hChanged
  have hNe : Text.lines text ≠ [] := by
    apply Text.lines_ne_nil
    rintro rfl
    cases hLast
  have hUnit : Text.IsMargin layout.unit := by
    intro c hc
    rw [List.eq_of_mem_replicate hc]
    decide
  have hLines : Lines.All Line.Whole (Text.lines text) := by
    intro line hLine
    have hNewline : '\n' ∉ line := fun hMem =>
      Text.over_lines (fun _ _ hNe => hNe) line hLine '\n'
        hMem rfl
    have hReturn :=
      Text.not_mem_lines_of_paired hPaired line hLine
    exact
      { newline := hNewline
        leading := fun hMem =>
          hReturn (List.takeWhile_subset _ hMem)
        last := fun hEnd =>
          hReturn (List.mem_of_getLast? hEnd) }
  obtain ⟨hSome, hWhole⟩ :=
    Transform.run_lines_whole hRules hUnit hNe hLines
  have hWritten :
      written =
        Source.render
          { lines :=
              (Transform.run rules layout
                (Text.lines text)).lines
            ending := (Source.ofText text).ending
            endsInNewline := true } := by
    have hKept :
        (Transform.run rules layout
          (Text.lines text)).lines ≠ Text.lines text :=
      fun hEq => hChanged (rewritten_of_lines_eq hEq)
    have hEnds : (Source.ofText text).endsInNewline = true :=
      decide_eq_true hLast
    have hSource :
        (Source.ofText text).lines = Text.lines text := rfl
    unfold written rewrite
    simp only [hSource, hEnds]
    rw [if_neg hKept]
  rw [hWritten]
  exact Source.lines_render _ hSome hWhole

/-
  A method in a text of mixed endings, most of them with a
  carriage return.
-/
theorem rewritten_keeps_lines_mixed :
    let rules := [Rule.standard]
    let layout : Layout :=
      { unit := List.replicate 2 ' ', reindent := true }
    let text :=
      ("void _generateQuestion() \x7b\r\n" ++
        "  a();\r\n\x7d\n").toList
    let written := (rewrite rules layout "" text).rewritten
    let crLf := Text.countCrLf text
    let lf := text.count '\n' - crLf
    text.getLast? = some '\n' ∧ Text.Paired text ∧
      (∀ rule ∈ rules, rule.Unbroken) ∧
      lf < crLf ∧ written ≠ text ∧
      Text.lines written =
        (Transform.run rules layout (Text.lines text)).lines ∧
      Text.Uniform (if lf < crLf then .crLf else .lf)
        written ∧
      written.getLast? = some '\n' := by
  intro rules layout text written crLf lf
  have hLast : text.getLast? = some '\n' := by decide
  have hPaired : Text.Paired text := by decide
  have hRules : ∀ rule ∈ rules, rule.Unbroken := by
    intro rule hRule
    rw [List.mem_singleton.mp hRule]
    exact ⟨by decide, by decide, by decide⟩
  have hChanged : written ≠ text := by decide +kernel
  exact ⟨hLast, hPaired, hRules, by decide, hChanged,
    rewritten_keeps_lines rules 2 true "" text hLast hPaired
      hRules hChanged⟩

end Document

end NotifyScope
