import NotifyScope.Diff.Script
import NotifyScope.Path
import NotifyScope.Source

/-
  Patches in the unified format: how one is read, and what it
  does with a text.  A header says how many lines stand above
  a change and how many lines it has, in either text; the
  signed lines below it are those lines.  A patch is only
  applied where every change is in its place and finds the
  lines that it names.

  Key definitions include:
    * `Patch.Change`
    * `Patch.read?`
    * `Patch.applyTo?`
    * `Patch.inverse`
    * `Patch.Turns`

  Main declarations:
    * `Patch.applyFrom_eq_some_iff`
    * `Patch.turns_inverse`
-/

namespace NotifyScope

------------------------------------------------------------
-- Changes
------------------------------------------------------------

namespace Diff.Kind

/- What undoes an operation. -/
def inverse : Kind → Kind
  | equal => equal
  | delete => insert
  | insert => delete

/- The operation that a sign stands for. -/
def ofSign? : Char → Option Kind
  | ' ' => some equal
  | '-' => some delete
  | '+' => some insert
  | _ => none

end Diff.Kind

namespace Patch

/-
  A range of lines: how many lines stand above it, and how
  many lines it has.
-/
structure Range where
  above : Nat
  length : Nat
deriving DecidableEq, Repr

/- A line with what is done with it. -/
structure Entry where
  kind : Diff.Kind
  line : Line
deriving DecidableEq, Repr

namespace Entry

/- The entry for the way back. -/
def inverse
    (entry : Entry) : Entry :=
  { entry with kind := entry.kind.inverse }

/- The lines of all entries but those of one kind. -/
def linesWithout
    (kind : Diff.Kind)
    (entries : List Entry) : Lines :=
  (entries.filter (·.kind ≠ kind)).map line

theorem linesWithout_inverse
    (kind : Diff.Kind)
    (entries : List Entry) :
    linesWithout kind (entries.map inverse) =
      linesWithout kind.inverse entries := by
  have hSame :
      ∀ entry : Entry,
        decide (entry.inverse.kind ≠ kind) =
          decide (entry.kind ≠ kind.inverse) := by
    intro entry
    cases hKind : entry.kind <;> cases kind <;>
      simp [inverse, Diff.Kind.inverse, hKind]
  unfold linesWithout
  rw [List.filter_map, List.map_map]
  exact congrArg (List.map line)
    (List.filter_congr fun entry _ => hSame entry)

end Entry

/- What is done with a range of the lines of a text. -/
structure Change where
  old : Range
  new : Range
  entries : List Entry
deriving DecidableEq, Repr

namespace Change

/- The lines that a change finds. -/
def oldLines
    (change : Change) : Lines :=
  Entry.linesWithout .insert change.entries

/- The lines that a change leaves. -/
def newLines
    (change : Change) : Lines :=
  Entry.linesWithout .delete change.entries

/- Whether a change has as many lines as its header says. -/
def IsWhole
    (change : Change) : Prop :=
  change.old.length = change.oldLines.length ∧
    change.new.length = change.newLines.length

instance
    (change : Change) :
    Decidable change.IsWhole := by
  unfold IsWhole
  infer_instance

/- The change for the way back. -/
def inverse
    (change : Change) : Change :=
  { old := change.new
    new := change.old
    entries := change.entries.map Entry.inverse }

theorem oldLines_inverse
    (change : Change) :
    change.inverse.oldLines = change.newLines :=
  Entry.linesWithout_inverse .insert change.entries

theorem newLines_inverse
    (change : Change) :
    change.inverse.newLines = change.oldLines :=
  Entry.linesWithout_inverse .delete change.entries

end Change

end Patch

/- A patch is a list of changes, from top to bottom. -/
abbrev Patch :=
  List Patch.Change

namespace Patch

/- The patch for the way back. -/
def inverse
    (patch : Patch) : Patch :=
  patch.map Change.inverse

------------------------------------------------------------
-- Applying
------------------------------------------------------------

/-
  Apply changes to lines, above which stand `i` old lines and
  `j` new ones.
-/
def applyFrom : (i j : Nat) → Patch → Lines → Option Lines
  | _, _, [], lines => some lines
  | i, j, change :: rest, lines =>
      let kept := change.old.above - i
      if i ≤ change.old.above ∧
          change.new.above = j + kept ∧
          kept ≤ lines.length ∧
          change.oldLines <+: lines.drop kept then
        (applyFrom
          (change.old.above + change.oldLines.length)
          (change.new.above + change.newLines.length)
          rest
          (lines.drop (kept + change.oldLines.length))).map
            (lines.take kept ++ change.newLines ++ ·)
      else
        none

/- The text of lines that all end in a newline. -/
def unlines
    (lines : Lines) : Text :=
  lines.flatMap (· ++ ['\n'])

/- Apply a patch to a text. -/
def applyTo?
    (patch : Patch)
    (text : Text) : Option Text :=
  (applyFrom 0 0 patch (Text.lines text)).map unlines

/-
  Whether changes turn lines, above which stand `i` old lines
  and `j` new ones, into other lines.
-/
inductive Turns :
    (i j : Nat) → Patch → (lines written : Lines) → Prop
  | rest
      (i j : Nat)
      (lines : Lines) :
      Turns i j [] lines lines
  | change
      {i j : Nat}
      {change : Change}
      {patch : Patch}
      {kept lines written : Lines}
      (old_above : change.old.above = i + kept.length)
      (new_above : change.new.above = j + kept.length)
      (behind :
        Turns
          (change.old.above + change.oldLines.length)
          (change.new.above + change.newLines.length)
          patch lines written) :
      Turns i j (change :: patch)
        (kept ++ change.oldLines ++ lines)
        (kept ++ change.newLines ++ written)

theorem turns_nil_iff
    {i j : Nat}
    {lines written : Lines} :
    Turns i j [] lines written ↔ lines = written := by
  constructor
  · rintro ⟨⟩
    rfl
  · rintro rfl
    exact .rest i j lines

/- Above the first change are as many old as new lines. -/
theorem turns_cons_iff
    {i j : Nat}
    {change : Change}
    {patch : Patch}
    {lines written : Lines} :
    Turns i j (change :: patch) lines written ↔
      ∃ kept behind behind',
        change.old.above = i + kept.length ∧
          change.new.above = j + kept.length ∧
          lines = kept ++ change.oldLines ++ behind ∧
          written = kept ++ change.newLines ++ behind' ∧
          Turns
            (change.old.above + change.oldLines.length)
            (change.new.above + change.newLines.length)
            patch behind behind' := by
  constructor
  · intro hTurns
    cases hTurns with
    | change hOld hNew hBehind =>
        exact ⟨_, _, _, hOld, hNew, rfl, rfl, hBehind⟩
  · rintro ⟨kept, behind, behind', hOld, hNew, rfl, rfl,
      hBehind⟩
    exact .change hOld hNew hBehind

theorem applyFrom_eq_some_iff
    {i j : Nat}
    {patch : Patch}
    {lines written : Lines} :
    applyFrom i j patch lines = some written ↔
      Turns i j patch lines written := by
  constructor
  · intro hApply
    induction patch generalizing i j lines written with
    | nil =>
        cases hApply
        exact .rest i j lines
    | cons change patch ih =>
        unfold applyFrom at hApply
        dsimp only at hApply
        split at hApply
        · rename_i hFits
          obtain ⟨hAbove, hNew, hKept, behind, hBehind⟩ :=
            hFits
          obtain ⟨rest, hRest, rfl⟩ :=
            Option.map_eq_some_iff.mp hApply
          have hLength :
              (lines.take (change.old.above - i)).length =
                change.old.above - i :=
            List.length_take_of_le hKept
          have hLines :
              lines =
                lines.take (change.old.above - i) ++
                  change.oldLines ++
                    lines.drop (change.old.above - i +
                      change.oldLines.length) := by
            rw [List.append_assoc, ← List.drop_drop,
              ← hBehind, List.drop_left, hBehind,
              List.take_append_drop]
          have hTurns := ih hRest
          generalize lines.take (change.old.above - i) = kept
            at hLength hLines ⊢
          rw [hLines]
          exact .change (by omega) (by omega) hTurns
        · cases hApply
  · intro hTurns
    induction hTurns with
    | rest i j lines => rfl
    | @change i j change patch kept lines written hOld hNew
        _ ih =>
        have hKept : change.old.above - i = kept.length := by
          omega
        unfold applyFrom
        dsimp only
        rw [hKept, if_pos, ← List.drop_drop,
          List.append_assoc, List.drop_left, List.drop_left,
          ih, List.take_left]
        · rfl
        · refine ⟨by omega, hNew, by simp, ?_⟩
          rw [List.append_assoc, List.drop_left]
          exact List.prefix_append _ _

/- The inverse of a patch turns the lines back. -/
theorem turns_inverse
    {i j : Nat}
    {patch : Patch}
    {lines written : Lines}
    (hTurns : Turns i j patch lines written) :
    Turns j i patch.inverse written lines := by
  induction hTurns with
  | rest i j lines => exact .rest j i lines
  | @change i j change patch kept lines written hOld hNew
      _ ih =>
      rw [← change.oldLines_inverse,
        ← change.newLines_inverse]
      refine .change hNew hOld ?_
      rw [change.oldLines_inverse, change.newLines_inverse]
      exact ih

------------------------------------------------------------
-- Reading
------------------------------------------------------------

/- The number that decimal digits stand for. -/
def number?
    (text : Text) : Option Nat :=
  if text ≠ [] ∧ text.all Char.isDigit then
    some (Nat.ofDigitChars 10 text 0)
  else
    none

namespace Range

/-
  The range with a first line and a length.  Lines are counted
  from one; without any line, the first one is the line above
  the range.
-/
def ofFirst? : (first length : Nat) → Option Range
  | above, 0 => some { above, length := 0 }
  | 0, _ + 1 => none
  | above + 1, length + 1 =>
      some { above, length := length + 1 }

/- Read a range.  A length of one can be left out. -/
def read?
    (text : Text) : Option Range :=
  match Text.splitOn ',' text with
  | [first] =>
      (number? first).bind fun first => ofFirst? first 1
  | [first, length] =>
      (number? first).bind fun first =>
        (number? length).bind fun length =>
          ofFirst? first length
  | _ => none

end Range

/- Read the header of a change. -/
def header?
    (line : Line) : Option (Range × Range) :=
  match Text.splitOn ' ' line with
  | [['@', '@'], '-' :: old, '+' :: new, ['@', '@']] =>
      (Range.read? old).bind fun old =>
        (Range.read? new).map fun new => (old, new)
  | _ => none

/- Read a signed line. -/
def entry? : Line → Option Entry
  | [] => none
  | sign :: line =>
      (Diff.Kind.ofSign? sign).map fun kind => { kind, line }

/-
  Read lines from the last to the first: the signed lines in
  front of any header, and the changes behind them.
-/
def readLines? : Lines → Option (List Entry × Patch)
  | [] => some ([], [])
  | line :: rest =>
      (readLines? rest).bind fun (entries, patch) =>
        match entry? line with
        | some entry => some (entry :: entries, patch)
        | none =>
            (header? line).bind fun (old, new) =>
              let change : Change := { old, new, entries }
              if change.IsWhole then
                some ([], change :: patch)
              else
                none

/-
  What is below the two lines that name a file.  The new one
  can be one that is only proposed.
-/
def dropHeading?
    (name : String)
    (text : Text) : Option Text :=
  let heading :=
    ("--- a/" ++ name ++ "\n+++ b/" ++ name).toList
  if heading <+: text then
    match text.drop heading.length with
    | '\n' :: rest => some rest
    | rest =>
        if " (proposed)\n".toList <+: rest then
          some (rest.drop " (proposed)\n".toList.length)
        else
          none
  else
    none

/- Read the patch of a file. -/
def read?
    (name : String)
    (text : Text) : Option Patch :=
  (dropHeading? name text).bind fun rest =>
    match readLines? (Text.lines rest) with
    | some ([], patch) => some patch
    | _ => none

end Patch

end NotifyScope
