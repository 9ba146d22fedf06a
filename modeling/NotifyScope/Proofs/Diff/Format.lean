import NotifyScope.Diff.Unified
import NotifyScope.Proofs.Diff.Patch
import NotifyScope.Proofs.Identifier.Numeral
import NotifyScope.Proofs.Path.Names
import NotifyScope.Proofs.Source.RoundTrip

/-
  The unified format, written and read.  A change has a header
  and its entries below it.  What is written of a patch reads
  as this patch if every change has as many lines as its
  header says, and else it reads as no patch.

  Key definitions include:
    * `Line.IsPlain`
    * `Text.IsEnded`
    * `Patch.Corrects`
    * `Patch.Range.text`
    * `Patch.Change.header`
    * `Patch.Change.written`

  Main declarations:
    * `Patch.lines_unlines`
    * `Patch.Range.read?_text`
    * `Patch.Change.header?_header`
    * `Patch.readLines?_written`
    * `Patch.corrects_iff_turns`
-/

namespace NotifyScope

------------------------------------------------------------
-- Lines
------------------------------------------------------------

/- A line without line breaks in it. -/
structure Line.IsPlain
    (line : Line) : Prop where
  lf : '\n' ∉ line
  cr : '\r' ∉ line

/-
  A text of lines that all end in a newline, with no carriage
  return in it.
-/
structure Text.IsEnded
    (text : Text) : Prop where
  cr : '\r' ∉ text
  ends : text = [] ∨ text.getLast? = some '\n'

namespace Patch

theorem unlines_cons
    (line : Line)
    (lines : Lines) :
    unlines (line :: lines) = line ++ '\n' :: unlines lines := by
  simp [unlines]

variable {lines : Lines}

/- Plain lines come back from their text. -/
theorem lines_unlines
    (hPlain : ∀ line ∈ lines, line.IsPlain) :
    Text.lines (unlines lines) = lines := by
  induction lines with
  | nil => rfl
  | cons line lines ih =>
      obtain ⟨hLine, hRest⟩ := List.forall_mem_cons.mp hPlain
      rw [unlines_cons, Text.lines_append hLine.lf,
        Text.dropReturn_of_not_mem hLine.cr, ih hRest]

/- So different plain lines have different texts. -/
theorem unlines_inj
    {lines' : Lines}
    (hPlain : ∀ line ∈ lines, line.IsPlain)
    (hPlain' : ∀ line ∈ lines', line.IsPlain) :
    unlines lines = unlines lines' ↔ lines = lines' := by
  constructor
  · intro hEq
    rw [← lines_unlines hPlain, hEq, lines_unlines hPlain']
  · rintro rfl
    rfl

/- A text of ended lines is the text of plain lines. -/
theorem exists_lines
    {text : Text}
    (hText : text.IsEnded) :
    ∃ lines : Lines,
      (∀ line ∈ lines, line.IsPlain) ∧
        text = unlines lines := by
  obtain ⟨hCr, hEnds⟩ := hText
  induction text using Text.line_induction with
  | last line hLine =>
      rcases hEnds with rfl | hEnd
      · exact ⟨[], nofun, rfl⟩
      · exact absurd (List.mem_of_getLast? hEnd) hLine
  | next line rest hLine ih =>
      rw [List.mem_append, List.mem_cons, not_or, not_or]
        at hCr
      obtain ⟨hLineCr, -, hRestCr⟩ := hCr
      have hRestEnds :
          rest = [] ∨ rest.getLast? = some '\n' := by
        by_cases hRest : rest = []
        · exact .inl hRest
        · rw [List.getLast?_append_of_ne_nil _
              (List.cons_ne_nil _ _),
            List.getLast?_cons_of_ne_nil hRest] at hEnds
          exact .inr (hEnds.resolve_left (by simp))
      obtain ⟨lines, hPlain, rfl⟩ := ih hRestCr hRestEnds
      exact ⟨line :: lines,
        List.forall_mem_cons.mpr ⟨⟨hLine, hLineCr⟩, hPlain⟩,
        (unlines_cons line lines).symm⟩

------------------------------------------------------------
-- Ranges
------------------------------------------------------------

theorem number?_numeral
    (n : Nat) :
    number? (Text.numeral n) = some n := by
  unfold number?
  rw [if_pos, Text.numeral_eq, Nat.ofDigitChars_ten_toDigits]
  refine ⟨?_, List.all_eq_true.mpr fun _ =>
    Text.isDigit_of_mem_numeral⟩
  rw [Text.numeral_eq]
  exact Nat.toDigits_ne_nil

theorem not_mem_numeral
    {c : Char}
    (hDigit : c.isDigit = false)
    (n : Nat) :
    c ∉ Text.numeral n := by
  intro hMem
  rw [Text.isDigit_of_mem_numeral hMem] at hDigit
  cases hDigit

namespace Range

/- A range as a header writes it. -/
def text
    (range : Range) : Text :=
  (Diff.Hunk.range range.above
    (range.above + range.length)).toList

/- A range is a numeral, or two with a comma between. -/
theorem text_eq
    (range : Range) :
    range.text =
      if range.length = 1 then
        Text.numeral (range.above + 1)
      else if range.length = 0 then
        Text.numeral range.above ++ ',' :: Text.numeral 0
      else
        Text.numeral (range.above + 1) ++
          ',' :: Text.numeral range.length := by
  unfold text Diff.Hunk.range
  rw [Nat.add_sub_cancel_left]
  split
  · rfl
  · split
    · rw [String.toList_append]
      rfl
    · rw [String.toList_append, String.toList_append,
        List.append_assoc]
      rfl

/- A written range is read again. -/
theorem read?_text
    (range : Range) :
    read? range.text = some range := by
  rcases range with ⟨above, length⟩
  have hComma := not_mem_numeral (c := ',') rfl
  have hOne : ∀ n,
      Text.splitOn ',' (Text.numeral n) = [Text.numeral n] :=
    fun n => Text.splitOn_of_not_mem (hComma n)
  have hTwo : ∀ m n,
      Text.splitOn ','
          (Text.numeral m ++ ',' :: Text.numeral n) =
        [Text.numeral m, Text.numeral n] := by
    intro m n
    rw [Text.splitOn_append_cons, hOne, hOne]
    rfl
  rw [text_eq]
  dsimp only
  split
  · rename_i hLength
    subst hLength
    simp only [read?, hOne, number?_numeral, Option.bind_some]
    rfl
  · split
    · rename_i hLength
      subst hLength
      simp only [read?, hTwo, number?_numeral, Option.bind_some]
      rfl
    · rename_i hLength
      obtain ⟨length, rfl⟩ :=
        Nat.exists_eq_succ_of_ne_zero hLength
      simp only [read?, hTwo, number?_numeral, Option.bind_some]
      rfl

/- No range has a character beside digits and a comma. -/
theorem not_mem_text
    {c : Char}
    (hDigit : c.isDigit = false)
    (hComma : c ≠ ',')
    (range : Range) :
    c ∉ range.text := by
  have hNone := not_mem_numeral hDigit
  rw [text_eq]
  split
  · exact hNone _
  · split
    · simp [hNone, hComma]
    · simp [hNone, hComma]

end Range

------------------------------------------------------------
-- Entries
------------------------------------------------------------

/- The sign of an operation. -/
def sign : Diff.Kind → Char
  | .equal => ' '
  | .delete => '-'
  | .insert => '+'

/- An entry as it is written. -/
def Entry.text
    (entry : Entry) : Line :=
  sign entry.kind :: entry.line

theorem Entry.isPlain_text
    {entry : Entry}
    (hLine : entry.line.IsPlain) :
    entry.text.IsPlain := by
  have hSign :
      sign entry.kind ≠ '\n' ∧ sign entry.kind ≠ '\r' := by
    cases entry.kind <;> decide
  unfold text
  exact
    { lf :=
        List.not_mem_cons_of_ne_of_not_mem hSign.1.symm hLine.lf
      cr :=
        List.not_mem_cons_of_ne_of_not_mem hSign.2.symm
          hLine.cr }

theorem entry?_text
    (entry : Entry) :
    entry? entry.text = some entry := by
  rcases entry with ⟨kind, line⟩
  cases kind with
  | equal => rfl
  | delete => rfl
  | insert => rfl

------------------------------------------------------------
-- Changes
------------------------------------------------------------

namespace Change

/- The header of a change. -/
def header
    (change : Change) : Line :=
  ['@', '@', ' ', '-'] ++ change.old.text ++
    [' ', '+'] ++ change.new.text ++ [' ', '@', '@']

/- The lines that are written of a change. -/
def written
    (change : Change) : Lines :=
  change.header :: change.entries.map Entry.text

theorem isPlain_header
    (change : Change) :
    change.header.IsPlain where
  lf := by
    have hRange :=
      Range.not_mem_text (c := '\n') (by decide) (by decide)
    simp [header, hRange]
  cr := by
    have hRange :=
      Range.not_mem_text (c := '\r') (by decide) (by decide)
    simp [header, hRange]

/- Of plain lines, only plain lines are written. -/
theorem isPlain_written
    {change : Change}
    (hPlain : ∀ entry ∈ change.entries, entry.line.IsPlain) :
    ∀ line ∈ change.written, line.IsPlain := by
  intro line hLine
  rcases List.mem_cons.mp hLine with rfl | hLine
  · exact change.isPlain_header
  · obtain ⟨entry, hEntry, rfl⟩ := List.mem_map.mp hLine
    exact Entry.isPlain_text (hPlain entry hEntry)

/- A header is no entry. -/
theorem entry?_header
    (change : Change) :
    entry? change.header = none := rfl

/- A header is read again. -/
theorem header?_header
    (change : Change) :
    header? change.header = some (change.old, change.new) := by
  have hSpace :=
    Range.not_mem_text (c := ' ') (by decide) (by decide)
  have hParts :
      Text.splitOn ' ' change.header =
        [['@', '@'], '-' :: change.old.text,
          '+' :: change.new.text, ['@', '@']] := by
    have hJoined :
        change.header =
          List.intercalate [' ']
            [['@', '@'], '-' :: change.old.text,
              '+' :: change.new.text, ['@', '@']] := by
      simp [header, List.intercalate, List.intersperse]
    rw [hJoined]
    apply Text.splitOn_intercalate
    · simp [hSpace]
    · exact List.cons_ne_nil _ _
  unfold header?
  rw [hParts]
  simp only [Range.read?_text, Option.bind_some,
    Option.map_some]

end Change

/- Entries are read in front of the lines below them. -/
theorem readLines?_append
    (entries : List Entry)
    (lines : Lines) :
    readLines? (entries.map Entry.text ++ lines) =
      (readLines? lines).map fun (more, patch) =>
        (entries ++ more, patch) := by
  induction entries with
  | nil => simp
  | cons entry entries ih =>
      rw [List.map_cons, List.cons_append, readLines?, ih,
        entry?_text]
      cases readLines? lines with
      | none => rfl
      | some read => rfl

/- What is written of a patch is the patch if it is whole. -/
theorem readLines?_written
    (patch : Patch) :
    readLines? (patch.flatMap Change.written) =
      if ∀ change ∈ patch, change.IsWhole then
        some ([], patch)
      else
        none := by
  induction patch with
  | nil => rfl
  | cons change patch ih =>
      rw [List.flatMap_cons, Change.written, List.cons_append,
        readLines?, readLines?_append, ih,
        Change.entry?_header, Change.header?_header]
      simp only [List.forall_mem_cons]
      by_cases hPatch : ∀ change ∈ patch, change.IsWhole
      · rw [if_pos hPatch, Option.map_some, Option.bind_some,
          Option.bind_some, List.append_nil]
        by_cases hChange : change.IsWhole
        · rw [if_pos hChange, if_pos ⟨hChange, hPatch⟩]
        · rw [if_neg hChange, if_neg fun hAll => hChange hAll.1]
      · rw [if_neg hPatch, if_neg fun hAll => hPatch hAll.2]
        rfl

------------------------------------------------------------
-- Texts
------------------------------------------------------------

/- Whether a patch leads from one text to another and back. -/
structure Corrects
    (patch : Patch)
    (before after : Text) : Prop where
  forth : patch.applyTo? before = some after
  back : patch.inverse.applyTo? after = some before

/- What all lines have, the lines that they turn into have. -/
theorem Turns.forall
    {P : Line → Prop}
    {i j : Nat}
    {patch : Patch}
    {lines written : Lines}
    (hTurns : Turns i j patch lines written)
    (hLines : ∀ line ∈ lines, P line)
    (hPatch :
      ∀ change ∈ patch, ∀ entry ∈ change.entries,
        P entry.line) :
    ∀ line ∈ written, P line := by
  induction hTurns with
  | rest => exact hLines
  | @change _ _ change _ _ _ _ _ _ _ ih =>
      obtain ⟨hChange, hPatch⟩ :=
        List.forall_mem_cons.mp hPatch
      simp only [List.forall_mem_append] at hLines ⊢
      obtain ⟨⟨hKept, -⟩, hBehind⟩ := hLines
      refine ⟨⟨hKept, fun line hLine => ?_⟩,
        ih hBehind hPatch⟩
      obtain ⟨entry, hEntry, rfl⟩ := List.mem_map.mp hLine
      exact hChange entry (List.mem_of_mem_filter hEntry)

/- Of plain texts, a patch corrects the lines. -/
theorem corrects_iff_turns
    {patch : Patch}
    {before after : Lines}
    (hBefore : ∀ line ∈ before, line.IsPlain)
    (hAfter : ∀ line ∈ after, line.IsPlain)
    (hPatch :
      ∀ change ∈ patch, ∀ entry ∈ change.entries,
        entry.line.IsPlain) :
    patch.Corrects (unlines before) (unlines after) ↔
      Turns 0 0 patch before after := by
  constructor
  · rintro ⟨hForth, -⟩
    unfold applyTo? at hForth
    rw [lines_unlines hBefore] at hForth
    obtain ⟨written, hWritten, hEq⟩ :=
      Option.map_eq_some_iff.mp hForth
    have hTurns := applyFrom_eq_some_iff.mp hWritten
    obtain rfl :=
      (unlines_inj (hTurns.forall hBefore hPatch) hAfter).mp hEq
    exact hTurns
  · intro hTurns
    have hBack := turns_inverse hTurns
    constructor
    · rw [applyTo?, lines_unlines hBefore,
        applyFrom_eq_some_iff.mpr hTurns, Option.map_some]
    · rw [applyTo?, lines_unlines hAfter,
        applyFrom_eq_some_iff.mpr hBack, Option.map_some]

end Patch

end NotifyScope
