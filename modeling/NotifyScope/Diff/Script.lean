import NotifyScope.Text.Blank

/-
  This file defines edit scripts between two lists of lines.

  Key definitions include:
    * `Diff.splitLines`
    * `Diff.Operation`
    * `Diff.prefixLength`
    * `Diff.suffixLength`
-/

namespace NotifyScope

namespace Diff

------------------------------------------------------------
-- Lines
------------------------------------------------------------

/-
  Put a character in front of lines that keep their endings.
  A newline, a carriage return, and both in this order end a
  line.
-/
def consLine
    (c : Char)
    (lines : List Text) : List Text :=
  if c = '\n' then
    [c] :: lines
  else
    match lines with
    | [] => [[c]]
    | line :: rest =>
        if c = '\r' ∧ line.head? ≠ some '\n' then
          [c] :: lines
        else
          (c :: line) :: rest

/- The lines of a text with their endings. -/
def splitLines
    (text : Text) : List Text :=
  text.foldr consLine []

/- Prepending a character to the lines prepends it. -/
theorem flatten_consLine
    (c : Char)
    (lines : List Text) :
    (consLine c lines).flatten = c :: lines.flatten := by
  simp only [consLine]
  split
  · simp
  · split
    · simp
    · split <;> simp

/- The lines of a text make up the text. -/
theorem flatten_splitLines
    (text : Text) :
    (splitLines text).flatten = text := by
  induction text with
  | nil => rfl
  | cons c text ih =>
      simp only [splitLines, List.foldr_cons] at ih ⊢
      rw [flatten_consLine, ih]

------------------------------------------------------------
-- Operations
------------------------------------------------------------

/- What an operation does with lines. -/
inductive Kind where
  /- The lines are in both texts. -/
  | equal
  /- The lines are in the old text only. -/
  | delete
  /- The lines are in the new text only. -/
  | insert
deriving DecidableEq, Repr

/-
  An operation on `length` lines, at a position in the old
  and in the new text.
-/
structure Operation where
  kind : Kind
  old : Nat
  new : Nat
  length : Nat
deriving DecidableEq, Repr

namespace Operation

/- How many lines of the old text an operation covers. -/
def oldLength
    (operation : Operation) : Nat :=
  match operation.kind with
  | .insert => 0
  | _ => operation.length

/- How many lines of the new text an operation covers. -/
def newLength
    (operation : Operation) : Nat :=
  match operation.kind with
  | .delete => 0
  | _ => operation.length

end Operation

------------------------------------------------------------
-- Common Parts
------------------------------------------------------------

/-
  How many of the `count` lines from `i` and from `j` on are
  the same in both texts.
-/
def prefixLength
    (old new : Array Text) :
    (count i j : Nat) → Nat
  | 0, _, _ => 0
  | count + 1, i, j =>
      if old[i]? = new[j]? then
        prefixLength old new count (i + 1) (j + 1) + 1
      else
        0

/-
  How many of the `count` lines before `i` and before `j` are
  the same in both texts, the last ones first.
-/
def suffixLength
    (old new : Array Text) :
    (count i j : Nat) → Nat
  | 0, _, _ => 0
  | count + 1, i, j =>
      if old[i - 1]? = new[j - 1]? then
        suffixLength old new count (i - 1) (j - 1) + 1
      else
        0

/- A common part has no more than `count` lines. -/
theorem prefixLength_le
    (old new : Array Text)
    (count i j : Nat) :
    prefixLength old new count i j ≤ count := by
  induction count generalizing i j with
  | zero => exact Nat.le_refl 0
  | succ count ih =>
      simp only [prefixLength]
      split
      · have := ih (i + 1) (j + 1)
        omega
      · omega

/- A common part has no more than `count` lines. -/
theorem suffixLength_le
    (old new : Array Text)
    (count i j : Nat) :
    suffixLength old new count i j ≤ count := by
  induction count generalizing i j with
  | zero => exact Nat.le_refl 0
  | succ count ih =>
      simp only [suffixLength]
      split
      · have := ih (i - 1) (j - 1)
        omega
      · omega

end Diff

end NotifyScope
