import NotifyScope.Proofs.Document.Outcome
import NotifyScope.Proofs.Rewrite.Characters
import NotifyScope.Proofs.Rewrite.Turns
import NotifyScope.Proofs.Rule.Standard
import NotifyScope.Proofs.Source.Lines

/-
  Texts in both line endings.  A text and the same text with
  a carriage return in front of every newline have the same
  lines, so they are rewritten alike; and each gets its new
  lines in the ending that it had.

  Key definitions include:
    * `Text.toCrLf`

  Main declarations:
    * `Text.lines_toCrLf`
    * `Source.ofText_toCrLf`
    * `Source.toCrLf_render`
    * `Document.rewrite_toCrLf`
-/

------------------------------------------------------------
-- Carriage Returns
------------------------------------------------------------

namespace NotifyScope

namespace Text

/- Put a carriage return in front of every newline. -/
def toCrLf
    (text : Text) : Text :=
  text.flatMap fun c =>
    if c = '\n' then ['\r', '\n'] else [c]

@[simp] theorem toCrLf_nil : toCrLf [] = [] := rfl

@[simp] theorem toCrLf_cons_newline
    (text : Text) :
    toCrLf ('\n' :: text) = '\r' :: '\n' :: toCrLf text :=
  rfl

theorem toCrLf_cons
    {c : Char}
    (text : Text)
    (hNe : c ≠ '\n') :
    toCrLf (c :: text) = c :: toCrLf text := by
  unfold toCrLf
  rw [List.flatMap_cons, if_neg hNe]
  rfl

@[simp] theorem toCrLf_append
    (left right : Text) :
    toCrLf (left ++ right) = toCrLf left ++ toCrLf right :=
  List.flatMap_append

theorem toCrLf_of_not_mem
    {line : Text}
    (hLine : '\n' ∉ line) :
    toCrLf line = line := by
  induction line with
  | nil => rfl
  | cons c line ih =>
      rw [List.mem_cons, not_or] at hLine
      rw [toCrLf_cons line (Ne.symm hLine.1), ih hLine.2]

/- No newline is in front, since a return comes first. -/
theorem head?_toCrLf_ne
    (text : Text) :
    (toCrLf text).head? ≠ some '\n' := by
  cases text with
  | nil => exact nofun
  | cons c text =>
      by_cases hNewline : c = '\n'
      · subst hNewline
        rw [toCrLf_cons_newline, List.head?_cons]
        decide
      · rw [toCrLf_cons text hNewline, List.head?_cons]
        exact fun hSome => hNewline (Option.some.inj hSome)

/- The last character stays. -/
theorem getLast?_toCrLf
    (text : Text) :
    (toCrLf text).getLast? = text.getLast? := by
  rcases List.eq_nil_or_concat' text with
    rfl | ⟨front, c, rfl⟩
  · rfl
  · rw [toCrLf_append, List.getLast?_concat]
    by_cases hNewline : c = '\n'
    · subst hNewline
      simp
    · rw [toCrLf_cons [] hNewline, toCrLf_nil,
        List.getLast?_concat]

/- Different texts stay different. -/
theorem toCrLf_injective :
    Function.Injective toCrLf := by
  have hFirst : ∀ {c : Char} {left right : Text},
      c ≠ '\n' →
      toCrLf ('\n' :: left) ≠ toCrLf (c :: right) := by
    intro c left right hNe hEq
    rw [toCrLf_cons_newline, toCrLf_cons right hNe] at hEq
    apply head?_toCrLf_ne right
    rw [← (List.cons.inj hEq).2]
    rfl
  intro left right hEq
  induction left generalizing right with
  | nil =>
      cases right with
      | nil => rfl
      | cons d right =>
          by_cases hNewline : d = '\n'
          · subst hNewline
            cases hEq
          · rw [toCrLf_cons right hNewline] at hEq
            cases hEq
  | cons c left ih =>
      cases right with
      | nil =>
          by_cases hNewline : c = '\n'
          · subst hNewline
            cases hEq
          · rw [toCrLf_cons left hNewline] at hEq
            cases hEq
      | cons d right =>
          by_cases hLeft : c = '\n' <;>
            by_cases hRight : d = '\n'
          · subst hLeft hRight
            simp only [toCrLf_cons_newline, List.cons.injEq,
              true_and] at hEq
            rw [ih hEq]
          · subst hLeft
            exact absurd hEq (hFirst hRight)
          · subst hRight
            exact absurd hEq.symm (hFirst hLeft)
          · rw [toCrLf_cons left hLeft,
              toCrLf_cons right hRight] at hEq
            rw [(List.cons.inj hEq).1,
              ih (List.cons.inj hEq).2]

------------------------------------------------------------
-- Lines
------------------------------------------------------------

/- A return behind a character is dropped all the same. -/
theorem dropReturn_cons
    {c : Char}
    (piece : Text)
    (hNe : c ≠ '\r') :
    dropReturn (c :: piece) = c :: dropReturn piece := by
  cases piece with
  | nil =>
      unfold dropReturn
      rw [List.getLast?_singleton, if_neg (by simpa using hNe)]
      rfl
  | cons d piece =>
      unfold dropReturn
      rw [List.getLast?_cons_cons]
      split <;> rfl

/-
  The pieces are those of the text itself, also where a
  return is left over from a newline at the end.
-/
theorem map_dropReturn_splitLines
    {text : Text}
    (hText : '\r' ∉ text)
    (rest : Text)
    (hRest : rest = [] ∨ rest = ['\r']) :
    (splitLines (toCrLf text ++ rest)).map dropReturn =
      splitLines text := by
  induction text with
  | nil => rcases hRest with rfl | rfl <;> rfl
  | cons c text ih =>
      rw [List.mem_cons, not_or] at hText
      have hPieces := ih hText.2
      by_cases hNewline : c = '\n'
      · subst hNewline
        have hReturn : '\n' ∉ ['\r'] := by decide
        have hSplit :=
          splitLines_append hReturn (toCrLf text ++ rest)
        rw [toCrLf_cons_newline]
        simp only [List.cons_append, List.nil_append]
          at hSplit ⊢
        rw [hSplit, List.map_cons, hPieces,
          splitLines_cons_newline]
        rfl
      · rcases List.exists_cons_of_ne_nil
            (splitLines_ne_nil (toCrLf text ++ rest)) with
          ⟨piece, pieces, hSplit⟩
        rw [hSplit, List.map_cons] at hPieces
        rw [toCrLf_cons text hNewline, List.cons_append,
          splitLines_cons hNewline hSplit, List.map_cons,
          dropReturn_cons piece (Ne.symm hText.1),
          splitLines_cons hNewline hPieces.symm]

/- A text without returns has the pieces for its lines. -/
theorem lines_of_not_mem
    {text : Text}
    (hText : '\r' ∉ text)
    (hNe : text ≠ []) :
    lines text = splitLines (dropNewline text) := by
  have hEmpty : ¬text.isEmpty = true := by
    rw [List.isEmpty_iff]
    exact hNe
  have hOver :
      Lines.Over (· ≠ '\r')
        (splitLines (dropNewline text)) :=
    over_splitLines fun c hc _ hReturn =>
      hText (hReturn ▸ mem_of_mem_dropNewline hc)
  unfold lines
  rw [if_neg hEmpty]
  refine (List.map_congr_left ?_).trans (List.map_id _)
  intro piece hPiece
  exact dropReturn_of_not_mem fun hReturn =>
    hOver piece hPiece '\r' hReturn rfl

/- Both texts have the same lines. -/
theorem lines_toCrLf
    {text : Text}
    (hText : '\r' ∉ text) :
    lines (toCrLf text) = lines text := by
  rcases List.eq_nil_or_concat' text with
    rfl | ⟨front, c, rfl⟩
  · rfl
  · have hNe : front ++ [c] ≠ [] := by simp
    have hEmpty :
        ¬(toCrLf (front ++ [c])).isEmpty = true := by
      rw [List.isEmpty_iff]
      exact fun hNil => hNe (toCrLf_injective hNil)
    rw [lines_of_not_mem hText hNe]
    unfold lines
    rw [if_neg hEmpty]
    by_cases hNewline : c = '\n'
    · subst hNewline
      have hFront : '\r' ∉ front := fun hMem =>
        hText (List.mem_append_left _ hMem)
      have hEnd :
          toCrLf (front ++ ['\n']) =
            (toCrLf front ++ ['\r']) ++ ['\n'] := by
        simp
      rw [hEnd, dropNewline_append, dropNewline_append]
      exact map_dropReturn_splitLines hFront _ (.inr rfl)
    · have hLast :
          (front ++ [c]).getLast? ≠ some '\n' := by
        rw [List.getLast?_concat]
        exact fun hSome => hNewline (Option.some.inj hSome)
      rw [dropNewline_of_getLast? hLast,
        dropNewline_of_getLast? (by
          rw [getLast?_toCrLf]
          exact hLast)]
      have hPieces :=
        map_dropReturn_splitLines hText [] (.inl rfl)
      rw [List.append_nil] at hPieces
      exact hPieces

/- A text without a newline is one line, or none. -/
theorem length_lines_le_one
    {text : Text}
    (hText : '\n' ∉ text) :
    (lines text).length ≤ 1 := by
  unfold lines
  split
  · exact Nat.zero_le _
  · rw [dropNewline_of_getLast? fun hLast =>
        hText (List.mem_of_getLast? hLast),
      splitLines_of_not_mem hText]
    exact le_rfl

------------------------------------------------------------
-- Counts of Endings
------------------------------------------------------------

theorem count_newline_toCrLf
    (text : Text) :
    (toCrLf text).count '\n' = text.count '\n' := by
  induction text with
  | nil => rfl
  | cons c text ih =>
      by_cases hNewline : c = '\n'
      · subst hNewline
        simp [ih]
      · rw [toCrLf_cons text hNewline, List.count_cons, ih,
          List.count_cons]

/- Every newline follows a return. -/
theorem countCrLf_toCrLf
    (text : Text) :
    countCrLf (toCrLf text) = text.count '\n' := by
  induction text with
  | nil => rfl
  | cons c text ih =>
      by_cases hNewline : c = '\n'
      · subst hNewline
        have hRest :
            countCrLf ('\n' :: toCrLf text) =
              countCrLf (toCrLf text) :=
          countCrLf_cons_of_ne (.inl (by decide))
        rw [List.count_cons_self, ← ih, ← hRest,
          toCrLf_cons_newline]
        unfold countCrLf
        rw [List.tail_cons, List.zip_cons_cons,
          List.count_cons_self, List.tail_cons]
      · rw [toCrLf_cons text hNewline,
          countCrLf_cons_of_ne (.inr (head?_toCrLf_ne text)),
          ih, List.count_cons_of_ne hNewline]

theorem countCrLf_of_not_mem
    {text : Text}
    (hText : '\r' ∉ text) :
    countCrLf text = 0 := by
  unfold countCrLf
  rw [List.count_eq_zero]
  intro hMem
  exact hText (List.of_mem_zip hMem).1

end Text

------------------------------------------------------------
-- Source Texts
------------------------------------------------------------

namespace Source

open Text

/- A text without returns ends its lines in newlines. -/
theorem ending_ofText
    {text : Text}
    (hText : '\r' ∉ text) :
    (ofText text).ending = .lf := by
  unfold ofText
  simp only
  rw [countCrLf_of_not_mem hText, if_neg (Nat.not_lt_zero _)]

/- With returns it is the same but for the ending. -/
theorem ofText_toCrLf
    {text : Text}
    (hText : '\r' ∉ text) :
    ofText (toCrLf text) =
      { ofText text with
        ending := if '\n' ∈ text then .crLf else .lf } := by
  unfold ofText
  simp only [lines_toCrLf hText, countCrLf_toCrLf,
    count_newline_toCrLf, getLast?_toCrLf, Nat.sub_self,
    List.count_pos_iff]

/- Lines that are written in both endings. -/
theorem toCrLf_render
    (endsInNewline : Bool)
    {lines : Lines}
    (hLines : Lines.Over (· ≠ '\n') lines) :
    toCrLf
        (render { lines, ending := .lf, endsInNewline }) =
      render { lines, ending := .crLf, endsInNewline } := by
  have hBetween :
      toCrLf (List.intercalate ['\n'] lines) =
        List.intercalate ['\r', '\n'] lines := by
    induction lines with
    | nil => rfl
    | cons line lines ih =>
        have hLine : '\n' ∉ line := fun hMem =>
          hLines line List.mem_cons_self '\n' hMem rfl
        have hRest := ih fun other hOther =>
          hLines other (List.mem_cons_of_mem _ hOther)
        cases lines with
        | nil =>
            simp only [List.intercalate_singleton]
            exact toCrLf_of_not_mem hLine
        | cons next lines =>
            simp only [List.intercalate_cons_cons,
              toCrLf_append, hRest,
              toCrLf_of_not_mem hLine]
            rfl
  unfold render
  simp only [LineEnding.text, toCrLf_append, hBetween]
  cases endsInNewline <;> rfl

/- A single line is written in the same way in both. -/
theorem render_of_length_le_one
    (ending : LineEnding)
    {lines : Lines}
    (hLength : lines.length ≤ 1) :
    render { lines, ending, endsInNewline := false } =
      render
        { lines, ending := .lf, endsInNewline := false } := by
  match lines, hLength with
  | [], _ => rfl
  | [line], _ => rfl

end Source

------------------------------------------------------------
-- Rules
------------------------------------------------------------

namespace Rule

variable {rule : Rule} {layout : Layout} {lines : Lines}

/- A method takes up two lines at least. -/
theorem methods_eq_nil_of_length_le_one
    (hLength : lines.length ≤ 1) :
    (rule.survey layout lines).methods = [] := by
  rw [List.eq_nil_iff_forall_not_mem]
  intro method hMethod
  have hClose := (located_of_mem_survey hMethod).closes
  have hLess := Block.lt_close? hClose
  have hEnd := Block.close?_lt_length hClose
  omega

/- So a single line is no more than renamed. -/
theorem length_rewrite_le_one
    (hLength : lines.length ≤ 1) :
    (rule.rewrite layout (rule.survey layout lines)
      lines).lines.length ≤ 1 := by
  unfold rewrite
  split
  · exact hLength
  · rw [methods_eq_nil_of_length_le_one hLength]
    simp only [Lines.renameAll_fst, List.length_map]
    exact hLength

end Rule

------------------------------------------------------------
-- Documents
------------------------------------------------------------

namespace Document

variable {rules : List Rule}
variable {layout : Layout}
variable {text : Text}

/-
  The new lines are written in the ending that the text has.
  A text of several lines shows which one that is; one of a
  single line does not, but it stays a single line.
-/
theorem toCrLf_rewritten
    (hText : '\r' ∉ text)
    (hOver : ∀ rule ∈ rules, rule.Over (· ≠ '\n'))
    (hUnit : '\n' ∉ layout.unit) :
    let lines :=
      (Transform.run rules layout (Text.lines text)).lines
    Text.toCrLf
        (Source.render { Source.ofText text with lines }) =
      Source.render
        { Source.ofText (Text.toCrLf text) with lines } := by
  intro lines
  have hLines : Lines.Over (· ≠ '\n') lines := by
    apply Transform.run_lines_invariant
      (Lines.Over (· ≠ '\n'))
    · intro rule hRule before hBefore
      exact Rule.over_rewrite (hOver rule hRule)
        (fun c hc hEq => hUnit (hEq ▸ hc)) hBefore
    · exact Text.over_lines fun c _ hNe => hNe
  have hEnding := Source.ending_ofText hText
  have hWritten :=
    Source.toCrLf_render (Source.ofText text).endsInNewline
      hLines
  rw [Source.ofText_toCrLf hText]
  simp only
  rw [hEnding, hWritten]
  split
  · rfl
  · rename_i hSingle
    have hLast :
        (Source.ofText text).endsInNewline = false := by
      unfold Source.ofText
      rw [decide_eq_false_iff_not]
      exact fun hLast =>
        hSingle (List.mem_of_getLast? hLast)
    rw [hLast]
    apply Source.render_of_length_le_one
    apply Transform.run_lines_invariant
      (fun lines => lines.length ≤ 1)
    · exact fun rule _ _ => Rule.length_rewrite_le_one
    · exact Text.length_lines_le_one hSingle

/-
  Line endings make no difference to a rewrite.  A text with
  a carriage return in front of every newline becomes the
  rewritten text with them, and all that is told of the two
  rewrites is the same.
-/
theorem rewrite_toCrLf
    (rules : List Rule)
    (layout : Layout)
    (name : String)
    (text : Text)
    (hText : '\r' ∉ text)
    (hRules : ∀ rule ∈ rules,
      (∀ marker ∈ rule.marker, '\n' ∉ marker) ∧
        '\n' ∉ rule.wrapOpen ∧ '\n' ∉ rule.wrapClose)
    (hUnit : '\n' ∉ layout.unit) :
    let document := rewrite rules layout name text
    rewrite rules layout name (Text.toCrLf text) =
      { document with
        before := Text.toCrLf text
        rewritten := Text.toCrLf document.rewritten } := by
  intro document
  have hOver : ∀ rule ∈ rules, rule.Over (· ≠ '\n') :=
    fun rule hRule =>
      Rule.over_of_not_mem (hRules rule hRule).1
        (hRules rule hRule).2.1 (hRules rule hRule).2.2
  have hLines :
      (Source.ofText (Text.toCrLf text)).lines =
        (Source.ofText text).lines :=
    Text.lines_toCrLf hText
  have hRewritten :
      (rewrite rules layout name
          (Text.toCrLf text)).rewritten =
        Text.toCrLf document.rewritten := by
    unfold document rewrite
    simp only [hLines]
    split
    · rfl
    · exact (toCrLf_rewritten hText hOver hUnit).symm
  have hOutcome :
      (rewrite rules layout name
          (Text.toCrLf text)).outcome =
        document.outcome := by
    rw [outcome_rewrite, hRewritten,
      Text.lines_toCrLf hText]
    simp only [ne_eq, Text.toCrLf_injective.eq_iff]
    rfl
  have hRest :
      (rewrite rules layout name
            (Text.toCrLf text)).detail =
          document.detail ∧
        (rewrite rules layout name
            (Text.toCrLf text)).counts =
          document.counts ∧
        (rewrite rules layout name
            (Text.toCrLf text)).trace =
          document.trace := by
    unfold document rewrite
    simp only [hLines, and_self]
  generalize hOther :
    rewrite rules layout name (Text.toCrLf text) = other
      at hRewritten hOutcome hRest
  have hNames :
      other.name = document.name ∧
        other.before = Text.toCrLf text := by
    rw [← hOther]
    exact ⟨rfl, rfl⟩
  cases other
  simp only at hNames hRewritten hOutcome hRest
  rw [hNames.1, hNames.2, hRewritten, hOutcome, hRest.1,
    hRest.2.1, hRest.2.2]

/-
  A method in a text with newlines, of which the last line
  has none.
-/
theorem rewrite_toCrLf_unwrapped :
    let rules := [Rule.standard]
    let layout : Layout :=
      { unit := "  ".toList, reindent := true }
    let text :=
      ("void _generateQuestion() \x7b\n  a();\n\x7d").toList
    '\r' ∉ text ∧
      (∀ rule ∈ rules,
        (∀ marker ∈ rule.marker, '\n' ∉ marker) ∧
          '\n' ∉ rule.wrapOpen ∧ '\n' ∉ rule.wrapClose) ∧
      '\n' ∉ layout.unit ∧
      (rewrite rules layout "" text).outcome = .fixed ∧
      rewrite rules layout "" (Text.toCrLf text) =
        { rewrite rules layout "" text with
          before := Text.toCrLf text
          rewritten :=
            Text.toCrLf
              (rewrite rules layout "" text).rewritten } := by
  intro rules layout text
  have hText : '\r' ∉ text := by decide
  have hRules : ∀ rule ∈ rules,
      (∀ marker ∈ rule.marker, '\n' ∉ marker) ∧
        '\n' ∉ rule.wrapOpen ∧ '\n' ∉ rule.wrapClose := by
    decide
  have hUnit : '\n' ∉ layout.unit := by decide
  refine ⟨hText, hRules, hUnit, ?_,
    rewrite_toCrLf rules layout "" text hText hRules hUnit⟩
  decide +kernel

end Document

end NotifyScope
