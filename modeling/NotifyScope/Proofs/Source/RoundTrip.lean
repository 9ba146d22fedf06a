import Mathlib.Data.List.Basic
import NotifyScope.Proofs.Source.Lines

/-
  Texts that come back when they are taken apart into lines
  and put together again.  Each line loses one carriage
  return and gets the ending of the majority, so a text comes
  back exactly if its lines all have one ending and it does
  not end in a carriage return.

  Key definitions include:
    * `Text.Uniform`
    * `Text.inEnding`

  Main declarations:
    * `Text.line_induction`
    * `Text.inEnding_eq_iff`
    * `Source.uniform_ending`
    * `Source.render_ofText_eq_iff`
-/

namespace NotifyScope

------------------------------------------------------------
-- Line by Line
------------------------------------------------------------

namespace Text

/- A text is a last line, or a line in front of a text. -/
theorem line_induction
    {motive : Text → Prop}
    (last : ∀ line, '\n' ∉ line → motive line)
    (next :
      ∀ line rest, '\n' ∉ line → motive rest →
        motive (line ++ '\n' :: rest))
    (text : Text) :
    motive text := by
  suffices hAll :
      ∀ text line : Text, '\n' ∉ line →
        motive (line ++ text) from
    hAll text [] List.not_mem_nil
  intro text
  induction text with
  | nil =>
      intro line hLine
      rw [List.append_nil]
      exact last line hLine
  | cons c text ih =>
      intro line hLine
      by_cases hNewline : c = '\n'
      · subst hNewline
        exact next line text hLine (ih [] List.not_mem_nil)
      · have hMore : '\n' ∉ line ++ [c] := by
          rw [List.mem_append, List.mem_singleton, not_or]
          exact ⟨hLine, Ne.symm hNewline⟩
        have hRest := ih (line ++ [c]) hMore
        rwa [List.append_assoc] at hRest

variable {line : Text}

/- A last line that is empty is none. -/
theorem lines_of_not_mem_newline
    (hLine : '\n' ∉ line) :
    lines line =
      if line = [] then [] else [dropReturn line] := by
  unfold lines
  simp only [List.isEmpty_iff]
  split
  · rfl
  · rw [dropNewline_of_getLast? fun hLast =>
        hLine (List.mem_of_getLast? hLast),
      splitLines_of_not_mem hLine]
    rfl

theorem lines_append
    (hLine : '\n' ∉ line)
    (rest : Text) :
    lines (line ++ '\n' :: rest) =
      dropReturn line :: lines rest := by
  have hNe : ¬(line ++ '\n' :: rest).isEmpty = true := by
    simp
  unfold lines
  rw [if_neg hNe]
  by_cases hRest : rest = []
  · subst hRest
    rw [dropNewline_append, splitLines_of_not_mem hLine]
    rfl
  · have hDrop :
        dropNewline (line ++ '\n' :: rest) =
          line ++ '\n' :: dropNewline rest := by
      unfold dropNewline
      rw [List.getLast?_append_of_ne_nil _
          (List.cons_ne_nil _ _),
        List.getLast?_cons_of_ne_nil hRest]
      split
      · rw [List.dropLast_append_cons,
          List.dropLast_cons_of_ne_nil hRest]
      · rfl
    have hEmpty : ¬rest.isEmpty = true := by
      rwa [List.isEmpty_iff]
    rw [hDrop, splitLines_append hLine, if_neg hEmpty]
    rfl

/- A newline is the first one, or one of those behind it. -/
theorem cut_of_append_eq
    {rest front behind : Text}
    (hLine : '\n' ∉ line)
    (hText : line ++ '\n' :: rest = front ++ '\n' :: behind) :
    front = line ∧ behind = rest ∨
      ∃ front', front = line ++ '\n' :: front' ∧
        rest = front' ++ '\n' :: behind := by
  rcases List.append_eq_append_iff.mp hText with
    ⟨front', rfl, hEq⟩ | ⟨line', rfl, hEq⟩
  · cases front' with
    | nil =>
        exact .inl
          ⟨List.append_nil line, (List.cons.inj hEq).2.symm⟩
    | cons c front' =>
        obtain ⟨rfl, rfl⟩ := List.cons.inj hEq
        exact .inr ⟨front', rfl, rfl⟩
  · cases line' with
    | nil =>
        exact .inl
          ⟨(List.append_nil front).symm, (List.cons.inj hEq).2⟩
    | cons c line' =>
        obtain ⟨rfl, -⟩ := List.cons.inj hEq
        simp at hLine

theorem append_newline_inj
    {other rest behind : Text}
    (hLine : '\n' ∉ line)
    (hOther : '\n' ∉ other) :
    line ++ '\n' :: rest = other ++ '\n' :: behind ↔
      line = other ∧ rest = behind := by
  constructor
  · intro hText
    rcases cut_of_append_eq hLine hText with
      ⟨rfl, rfl⟩ | ⟨front, rfl, -⟩
    · exact ⟨rfl, rfl⟩
    · simp at hOther
  · rintro ⟨rfl, rfl⟩
    rfl

/- Only the last line decides how a text ends. -/
theorem getLast?_append_eq_return_iff
    (line rest : Text) :
    (line ++ '\n' :: rest).getLast? = some '\r' ↔
      rest.getLast? = some '\r' := by
  cases rest with
  | nil => simp
  | cons c rest => simp

theorem countCrLf_append
    (hLine : '\n' ∉ line)
    (rest : Text) :
    countCrLf (line ++ '\n' :: rest) =
      (if line.getLast? = some '\r' then 1 else 0) +
        countCrLf rest := by
  have hNewline :
      countCrLf ('\n' :: rest) = countCrLf rest :=
    countCrLf_cons_of_ne (.inl (by decide))
  induction line with
  | nil =>
      rw [List.nil_append, hNewline]
      exact (Nat.zero_add _).symm
  | cons c line ih =>
      rw [List.mem_cons, not_or] at hLine
      have hRest := ih hLine.2
      cases line with
      | nil =>
          rw [List.nil_append] at hRest
          by_cases hReturn : c = '\r'
          · subst hReturn
            rw [← hNewline, Nat.add_comm]
            unfold countCrLf
            simp
          · rw [List.cons_append,
              countCrLf_cons_of_ne (.inl hReturn),
              List.getLast?_singleton, List.nil_append,
              hNewline, if_neg (by simpa using hReturn),
              Nat.zero_add]
      | cons d line =>
          have hHead :
              (d :: line ++ '\n' :: rest).head? ≠
                some '\n' := by
            intro hSome
            rw [List.cons_append, List.head?_cons,
              Option.some.injEq] at hSome
            exact hLine.2 (hSome ▸ List.mem_cons_self)
          rw [List.cons_append,
            countCrLf_cons_of_ne (.inr hHead), hRest,
            List.getLast?_cons_cons]

------------------------------------------------------------
-- One Ending
------------------------------------------------------------

/-
  Whether every newline of a text belongs to such an ending:
  whether all of them follow a carriage return, or none does.
-/
def Uniform
    (ending : LineEnding)
    (text : Text) : Prop :=
  ∀ front rest, text = front ++ '\n' :: rest →
    (front.getLast? = some '\r' ↔ ending = .crLf)

variable {ending : LineEnding}

theorem uniform_of_not_mem
    (hLine : '\n' ∉ line) :
    Uniform ending line := by
  rintro front rest rfl
  exact absurd
    (List.mem_append_right front List.mem_cons_self) hLine

theorem uniform_append_iff
    (hLine : '\n' ∉ line)
    (rest : Text) :
    Uniform ending (line ++ '\n' :: rest) ↔
      (line.getLast? = some '\r' ↔ ending = .crLf) ∧
        Uniform ending rest := by
  constructor
  · intro hUniform
    refine ⟨hUniform line rest rfl, ?_⟩
    rintro front behind rfl
    rw [← hUniform (line ++ '\n' :: front) behind (by simp)]
    exact (getLast?_append_eq_return_iff line front).symm
  · rintro ⟨hFirst, hRest⟩ front behind hText
    rcases cut_of_append_eq hLine hText with
      ⟨rfl, -⟩ | ⟨front, rfl, hBehind⟩
    · exact hFirst
    · rw [getLast?_append_eq_return_iff]
      exact hRest front behind hBehind

/- The text with all of its lines in one ending. -/
def inEnding
    (ending : LineEnding)
    (text : Text) : Text :=
  { Source.ofText text with ending }.render

theorem inEnding_of_not_mem
    (hLine : '\n' ∉ line) :
    inEnding ending line = dropReturn line := by
  have hLast : line.getLast? ≠ some '\n' := fun hLast =>
    hLine (List.mem_of_getLast? hLast)
  unfold inEnding Source.render Source.ofText
  simp only [lines_of_not_mem_newline hLine, hLast,
    decide_false, Bool.false_eq_true, if_false,
    List.append_nil]
  split
  · rename_i hNil
    subst hNil
    rfl
  · exact List.intercalate_singleton

theorem lines_ne_nil
    {text : Text}
    (hText : text ≠ []) :
    lines text ≠ [] := by
  have hEmpty : ¬text.isEmpty = true := by
    rwa [List.isEmpty_iff]
  unfold lines
  rw [if_neg hEmpty, Ne, List.map_eq_nil_iff]
  exact splitLines_ne_nil _

theorem inEnding_append
    (hLine : '\n' ∉ line)
    (rest : Text) :
    inEnding ending (line ++ '\n' :: rest) =
      dropReturn line ++
        (ending.text ++ inEnding ending rest) := by
  unfold inEnding Source.render Source.ofText
  simp only [lines_append hLine]
  cases rest with
  | nil =>
      have hLast :
          (line ++ ['\n']).getLast? = some '\n' :=
        List.getLast?_concat
      simp [hLast, lines]
  | cons c rest =>
      have hLast :
          (line ++ '\n' :: c :: rest).getLast? =
            (c :: rest).getLast? := by
        rw [List.getLast?_append_of_ne_nil _
          (List.cons_ne_nil _ _), List.getLast?_cons_cons]
      obtain ⟨first, others, hLines⟩ :=
        List.exists_cons_of_ne_nil
          (lines_ne_nil (List.cons_ne_nil c rest))
      rw [hLines, hLast]
      simp only [List.intercalate_cons_cons,
        List.append_assoc]

/- A return is dropped exactly from a line that ends in one. -/
theorem dropReturn_eq_iff
    (line : Text) :
    dropReturn line = line ↔ line.getLast? ≠ some '\r' := by
  rcases List.eq_nil_or_concat' line with
    rfl | ⟨front, c, rfl⟩
  · simp [dropReturn]
  · unfold dropReturn
    simp

/- It is put back exactly into such a line. -/
theorem dropReturn_append_eq_iff
    (line : Text) :
    dropReturn line ++ ['\r'] = line ↔
      line.getLast? = some '\r' := by
  rcases List.eq_nil_or_concat' line with
    rfl | ⟨front, c, rfl⟩
  · simp
  · unfold dropReturn
    by_cases hReturn : c = '\r'
    · simp [hReturn]
    · simp [hReturn]

/-
  Writing all lines in one ending changes nothing exactly if
  they have it already and no return is dropped at the end.
-/
theorem inEnding_eq_iff
    (ending : LineEnding)
    (text : Text) :
    inEnding ending text = text ↔
      Uniform ending text ∧ text.getLast? ≠ some '\r' := by
  induction text using line_induction with
  | last line hLine =>
      rw [inEnding_of_not_mem hLine, dropReturn_eq_iff]
      exact (and_iff_right (uniform_of_not_mem hLine)).symm
  | next line rest hLine ih =>
      have hDrop : '\n' ∉ dropReturn line := fun hMem =>
        hLine (mem_of_mem_dropReturn hMem)
      rw [inEnding_append hLine, uniform_append_iff hLine,
        Ne, getLast?_append_eq_return_iff, and_assoc, ← ih]
      cases ending with
      | lf =>
          have hFirst :
              dropReturn line ++ '\n' :: inEnding .lf rest =
                  line ++ '\n' :: rest ↔
                dropReturn line = line ∧
                  inEnding .lf rest = rest :=
            append_newline_inj hDrop hLine
          rw [dropReturn_eq_iff] at hFirst
          simpa [LineEnding.text] using hFirst
      | crLf =>
          have hReturn :
              '\n' ∉ dropReturn line ++ ['\r'] := by
            simpa using hDrop
          have hFirst :
              (dropReturn line ++ ['\r']) ++
                    '\n' :: inEnding .crLf rest =
                  line ++ '\n' :: rest ↔
                dropReturn line ++ ['\r'] = line ∧
                  inEnding .crLf rest = rest :=
            append_newline_inj hReturn hLine
          rw [dropReturn_append_eq_iff] at hFirst
          simpa [LineEnding.text] using hFirst

/- Newlines that all follow a return, or none of them. -/
theorem countCrLf_of_uniform
    {text : Text}
    (hUniform : Uniform ending text) :
    countCrLf text =
      if ending = .crLf then text.count '\n' else 0 := by
  induction text using line_induction with
  | last line hLine =>
      rw [List.count_eq_zero.mpr hLine, ite_self]
      unfold countCrLf
      rw [List.count_eq_zero]
      exact fun hMem =>
        hLine (List.mem_of_mem_tail (List.of_mem_zip hMem).2)
  | next line rest hLine ih =>
      obtain ⟨hFirst, hRest⟩ :=
        (uniform_append_iff hLine rest).mp hUniform
      rw [countCrLf_append hLine, ih hRest, List.count_append,
        List.count_eq_zero.mpr hLine, List.count_cons_self]
      simp only [hFirst]
      split <;> omega

end Text

------------------------------------------------------------
-- Round Trips
------------------------------------------------------------

namespace Source

open Text

/- If all lines have one ending, it is that of the majority. -/
theorem uniform_ending
    {ending : LineEnding}
    {text : Text}
    (hUniform : Uniform ending text) :
    Uniform (ofText text).ending text := by
  have hCount := countCrLf_of_uniform hUniform
  by_cases hText : '\n' ∈ text
  · have hPos := List.count_pos_iff.mpr hText
    have hEnding : (ofText text).ending = ending := by
      unfold ofText
      simp only
      rw [hCount]
      cases ending <;> simp [hPos]
    rwa [hEnding]
  · exact uniform_of_not_mem hText

/-
  A text comes back exactly if its newlines all follow a
  carriage return or none does, and it ends in none.
-/
theorem render_ofText_eq_iff
    (text : Text) :
    (ofText text).render = text ↔
      (Uniform .crLf text ∨ Uniform .lf text) ∧
        text.getLast? ≠ some '\r' := by
  have hOwn :
      (ofText text).render = text ↔
        Uniform (ofText text).ending text ∧
          text.getLast? ≠ some '\r' :=
    inEnding_eq_iff (ofText text).ending text
  rw [hOwn]
  refine and_congr_left' ⟨?_, ?_⟩
  · cases (ofText text).ending with
    | lf => exact .inr
    | crLf => exact .inl
  · rintro (hUniform | hUniform)
    · exact uniform_ending hUniform
    · exact uniform_ending hUniform

end Source

end NotifyScope
