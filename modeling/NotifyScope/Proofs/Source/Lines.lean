import Mathlib.Data.List.Basic
import NotifyScope.Source
import NotifyScope.Proofs.Lines.Position

/-
  Texts taken apart into lines and put together again.  Lines
  without a newline in them come back when they are put
  together and taken apart, up to white space at their ends:
  a carriage return there is taken for a line ending.

  Key definitions include:
    * `Lines.Matches`
    * `Lines.Over`

  Main declarations:
    * `Text.splitLines_append`
    * `Text.over_lines`
    * `Source.matches_render`
-/

------------------------------------------------------------
-- Pieces
------------------------------------------------------------

namespace NotifyScope

namespace Text

@[simp] theorem splitLines_nil :
    splitLines [] = [[]] := rfl

@[simp] theorem splitLines_cons_newline
    (text : Text) :
    splitLines ('\n' :: text) = [] :: splitLines text := rfl

theorem splitLines_ne_nil
    (text : Text) :
    splitLines text ≠ [] := by
  cases text with
  | nil => exact List.cons_ne_nil _ _
  | cons c text =>
      unfold splitLines
      rw [List.foldr_cons]
      unfold consPiece
      split
      · exact List.cons_ne_nil _ _
      · split
        · exact List.cons_ne_nil _ _
        · exact List.cons_ne_nil _ _

/- Another character goes to the front of the first piece. -/
theorem splitLines_cons
    {c : Char}
    {text piece : Text}
    {pieces : List Text}
    (hNe : c ≠ '\n')
    (hText : splitLines text = piece :: pieces) :
    splitLines (c :: text) = (c :: piece) :: pieces := by
  unfold splitLines at hText ⊢
  rw [List.foldr_cons, hText]
  unfold consPiece
  rw [if_neg hNe]

theorem splitLines_of_not_mem
    {line : Text}
    (hLine : '\n' ∉ line) :
    splitLines line = [line] := by
  induction line with
  | nil => rfl
  | cons c line ih =>
      rw [List.mem_cons, not_or] at hLine
      exact splitLines_cons (Ne.symm hLine.1) (ih hLine.2)

/- The first newline ends the first piece. -/
theorem splitLines_append
    {line : Text}
    (hLine : '\n' ∉ line)
    (rest : Text) :
    splitLines (line ++ '\n' :: rest) =
      line :: splitLines rest := by
  induction line with
  | nil => rfl
  | cons c line ih =>
      rw [List.mem_cons, not_or] at hLine
      exact splitLines_cons (Ne.symm hLine.1) (ih hLine.2)

/- A newline in the end has an empty piece behind it. -/
theorem splitLines_append_newline
    (text : Text) :
    splitLines (text ++ ['\n']) =
      splitLines text ++ [[]] := by
  induction text with
  | nil => rfl
  | cons c text ih =>
      by_cases hNewline : c = '\n'
      · subst hNewline
        rw [List.cons_append, splitLines_cons_newline, ih,
          splitLines_cons_newline, List.cons_append]
      · rcases List.exists_cons_of_ne_nil
            (splitLines_ne_nil text) with
          ⟨piece, pieces, hText⟩
        rw [hText, List.cons_append] at ih
        rw [List.cons_append, splitLines_cons hNewline ih,
          splitLines_cons hNewline hText, List.cons_append]

end Text

------------------------------------------------------------
-- Endings
------------------------------------------------------------

namespace Text

theorem dropReturn_of_not_mem
    {line : Text}
    (hLine : '\r' ∉ line) :
    dropReturn line = line := by
  unfold dropReturn
  rw [if_neg]
  exact fun hLast => hLine (List.mem_of_getLast? hLast)

theorem dropNewline_append
    (front : Text) :
    dropNewline (front ++ ['\n']) = front := by
  unfold dropNewline
  rw [List.getLast?_concat, if_pos rfl, List.dropLast_concat]

theorem dropNewline_of_getLast?
    {text : Text}
    (hLast : text.getLast? ≠ some '\n') :
    dropNewline text = text := by
  unfold dropNewline
  rw [if_neg hLast]

theorem countCrLf_cons_of_ne
    {c : Char}
    {text : Text}
    (hNe : c ≠ '\r' ∨ text.head? ≠ some '\n') :
    countCrLf (c :: text) = countCrLf text := by
  cases text with
  | nil => rfl
  | cons d text =>
      have hPair : ¬(c, d) = ('\r', '\n') := by
        rw [Prod.mk.injEq, not_and_or]
        exact hNe.imp_right fun hHead hEq =>
          hHead (congrArg some hEq)
      unfold countCrLf
      rw [List.tail_cons, List.zip_cons_cons,
        List.count_cons_of_ne hPair, List.tail_cons]

end Text

------------------------------------------------------------
-- Characters of Lines
------------------------------------------------------------

namespace Lines

/- Lines that are made of certain characters only. -/
def Over
    (allowed : Char → Prop)
    (lines : Lines) : Prop :=
  ∀ line ∈ lines, ∀ c ∈ line, allowed c

end Lines

namespace Text

variable {allowed : Char → Prop}

/- The pieces of a text are made of its characters. -/
theorem over_splitLines
    {text : Text}
    (hText : ∀ c ∈ text, c ≠ '\n' → allowed c) :
    Lines.Over allowed (splitLines text) := by
  induction text with
  | nil =>
      intro line hLine c hc
      rw [splitLines_nil, List.mem_singleton] at hLine
      subst hLine
      cases hc
  | cons d text ih =>
      have hRest := ih fun c hc =>
        hText c (List.mem_cons_of_mem _ hc)
      by_cases hNewline : d = '\n'
      · subst hNewline
        intro line hLine c hc
        rw [splitLines_cons_newline, List.mem_cons] at hLine
        rcases hLine with rfl | hLine
        · cases hc
        · exact hRest line hLine c hc
      · rcases List.exists_cons_of_ne_nil
            (splitLines_ne_nil text) with
          ⟨piece, pieces, hPieces⟩
        rw [hPieces] at hRest
        rw [splitLines_cons hNewline hPieces]
        intro line hLine c hc
        rcases List.mem_cons.mp hLine with rfl | hLine
        · rcases List.mem_cons.mp hc with rfl | hc
          · exact hText c List.mem_cons_self hNewline
          · exact hRest piece List.mem_cons_self c hc
        · exact hRest line (List.mem_cons_of_mem _ hLine) c
            hc

theorem mem_of_mem_dropReturn
    {line : Text}
    {c : Char}
    (hMem : c ∈ dropReturn line) :
    c ∈ line := by
  unfold dropReturn at hMem
  split at hMem
  · exact List.dropLast_subset _ hMem
  · exact hMem

theorem mem_of_mem_dropNewline
    {text : Text}
    {c : Char}
    (hMem : c ∈ dropNewline text) :
    c ∈ text := by
  unfold dropNewline at hMem
  split at hMem
  · exact List.dropLast_subset _ hMem
  · exact hMem

/-
  The lines of a text are made of the characters of the text
  other than newlines.
-/
theorem over_lines
    {text : Text}
    (hText : ∀ c ∈ text, c ≠ '\n' → allowed c) :
    Lines.Over allowed (Text.lines text) := by
  unfold Text.lines
  split
  · intro line hLine
    cases hLine
  · intro line hLine c hc
    rcases List.mem_map.mp hLine with ⟨piece, hPiece, rfl⟩
    apply over_splitLines ?_ piece hPiece c
      (mem_of_mem_dropReturn hc)
    intro d hd
    exact hText d (mem_of_mem_dropNewline hd)

end Text

------------------------------------------------------------
-- Lines up to White Space
------------------------------------------------------------

namespace Lines

/-
  Lines that are the same, one by one, up to white space
  around them.  Only blank lines have no partner.
-/
def Matches
    (left right : Lines) : Prop :=
  ∀ i, Text.trim (get left i) = Text.trim (get right i)

theorem Matches.symm
    {left right : Lines}
    (hMatches : Matches left right) :
    Matches right left :=
  fun i => (hMatches i).symm

theorem Matches.trans
    {left middle right : Lines}
    (hLeft : Matches left middle)
    (hRight : Matches middle right) :
    Matches left right :=
  fun i => (hLeft i).trans (hRight i)

theorem Matches.cons
    {line other : Line}
    {left right : Lines}
    (hLine : Text.trim line = Text.trim other)
    (hMatches : Matches left right) :
    Matches (line :: left) (other :: right) := by
  intro i
  cases i with
  | zero => exact hLine
  | succ i => exact hMatches i

/- An empty line at the end is no more than none. -/
theorem matches_append_nil
    (lines : Lines) :
    Matches (lines ++ [[]]) lines := by
  intro i
  by_cases hLess : i < lines.length
  · rw [get_append_left _ _ hLess]
  · obtain ⟨k, rfl⟩ :=
      Nat.exists_eq_add_of_le (Nat.le_of_not_lt hLess)
    rw [get_append_right,
      get_of_length_le (Nat.le_add_right lines.length k)]
    cases k with
    | zero => rfl
    | succ k => rfl

end Lines

namespace Text

theorem trim_dropReturn
    (line : Text) :
    trim (dropReturn line) = trim line := by
  unfold dropReturn
  split
  · rename_i hLast
    rcases List.eq_nil_or_concat' line with
      rfl | ⟨front, last, rfl⟩
    · rfl
    · rw [List.getLast?_concat, Option.some.injEq] at hLast
      subst hLast
      rw [List.dropLast_concat,
        trim_append_right front (by decide)]
  · rfl

/- The lines of a text are its pieces. -/
theorem matches_lines
    (text : Text) :
    Lines.Matches (Text.lines text) (splitLines text) := by
  have hPieces : ∀ pieces : Lines,
      Lines.Matches (pieces.map dropReturn) pieces := by
    intro pieces i
    unfold Lines.get
    rw [List.getD_eq_getElem?_getD,
      List.getD_eq_getElem?_getD, List.getElem?_map]
    cases pieces[i]? with
    | none => rfl
    | some piece => exact trim_dropReturn piece
  unfold Text.lines
  split
  · rename_i hEmpty
    rw [List.isEmpty_iff] at hEmpty
    subst hEmpty
    exact (Lines.matches_append_nil []).symm
  · apply (hPieces _).trans
    unfold dropNewline
    split
    · rename_i hLast
      rcases List.eq_nil_or_concat' text with
        rfl | ⟨front, last, rfl⟩
      · cases hLast
      · rw [List.getLast?_concat, Option.some.injEq] at hLast
        subst hLast
        rw [List.dropLast_concat, splitLines_append_newline]
        exact (Lines.matches_append_nil _).symm
    · exact fun i => rfl

end Text

------------------------------------------------------------
-- Round Trip
------------------------------------------------------------

namespace Source

open Text

/- A line that is written ends where it ended. -/
theorem splitLines_append_ending
    (ending : LineEnding)
    {line : Line}
    (hLine : '\n' ∉ line)
    (rest : Text) :
    ∃ first,
      splitLines (line ++ (ending.text ++ rest)) =
          first :: splitLines rest ∧
        trim first = trim line := by
  cases ending with
  | lf => exact ⟨line, splitLines_append hLine rest, rfl⟩
  | crLf =>
      refine ⟨line ++ ['\r'], ?_,
        trim_append_right line (by decide)⟩
      have hReturn : '\n' ∉ line ++ ['\r'] := by
        rw [List.mem_append, not_or]
        exact ⟨hLine, by decide⟩
      have hSplit := splitLines_append hReturn rest
      rw [List.append_assoc] at hSplit
      exact hSplit

/- The lines that are written are found again. -/
theorem matches_splitLines_render
    (ending : LineEnding)
    (endsInNewline : Bool)
    {lines : Lines}
    (hLines : Lines.Over (· ≠ '\n') lines) :
    Lines.Matches
      (splitLines
        (render { lines, ending, endsInNewline }))
      lines := by
  have hTail : ∀ line : Line, '\n' ∉ line →
      Lines.Matches
        (splitLines
          (line ++
            if endsInNewline then ending.text else []))
        [line] := by
    intro line hLine
    cases endsInNewline with
    | false =>
        rw [if_neg Bool.false_ne_true, List.append_nil,
          splitLines_of_not_mem hLine]
        exact fun i => rfl
    | true =>
        rcases splitLines_append_ending ending hLine [] with
          ⟨first, hSplit, hTrim⟩
        rw [List.append_nil] at hSplit
        rw [if_pos rfl, hSplit]
        exact .cons hTrim (Lines.matches_append_nil [])
  induction lines with
  | nil =>
      exact (hTail [] List.not_mem_nil).trans
        (Lines.matches_append_nil [])
  | cons line lines ih =>
      have hLine : '\n' ∉ line := fun hMem =>
        hLines line List.mem_cons_self '\n' hMem rfl
      have hRest := ih fun other hOther =>
        hLines other (List.mem_cons_of_mem _ hOther)
      cases lines with
      | nil =>
          unfold render
          simp only [List.intercalate_singleton]
          exact hTail line hLine
      | cons next lines =>
          unfold render at hRest ⊢
          simp only [List.intercalate_cons_cons,
            List.append_assoc] at hRest ⊢
          rcases splitLines_append_ending ending hLine
              (List.intercalate ending.text (next :: lines) ++
                if endsInNewline then ending.text else [])
            with ⟨first, hSplit, hTrim⟩
          rw [hSplit]
          exact .cons hTrim hRest

/-
  Writing lines and reading them again gives the same lines,
  up to white space around them.
-/
theorem matches_render
    (source : Source)
    (hLines : Lines.Over (· ≠ '\n') source.lines) :
    Lines.Matches (Text.lines source.render) source.lines :=
  (matches_lines source.render).trans
    (matches_splitLines_render source.ending
      source.endsInNewline hLines)

end Source

end NotifyScope
