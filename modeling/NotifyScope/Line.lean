import NotifyScope.Text.Blank

/-
  This file defines the lines of a source text, their brace
  balance, and the search for lines that are not blank.

  Key definitions include:
    * `Line`
    * `Line.braceWeight`
    * `Line.braceBalance`
    * `Lines.get`
    * `Lines.nextFilled?`
    * `Lines.lastFilled?`
-/

namespace NotifyScope

------------------------------------------------------------
-- Lines
------------------------------------------------------------

/- A line is a text without its line ending. -/
abbrev Line :=
  Text

namespace Line

/- What a character adds to the depth of braces. -/
def braceWeight
    (c : Char) : Int :=
  if c = '\x7b' then 1 else if c = '\x7d' then -1 else 0

/-
  The opening braces of a line less its closing ones.  Braces
  in string literals and comments count as well.
-/
def braceBalance
    (line : Line) : Int :=
  line.foldr (fun c depth => braceWeight c + depth) 0

end Line

------------------------------------------------------------
-- Positions in a List of Lines
------------------------------------------------------------

/- The lines of a source text, numbered from 0. -/
abbrev Lines :=
  List Line

namespace Lines

/- The line with a number, the empty one past the end. -/
def get
    (lines : Lines)
    (i : Nat) : Line :=
  lines.getD i []

/- The first line from `start` on that is not blank. -/
def nextFilled?
    (lines : Lines)
    (start : Nat) : Option Nat :=
  ((lines.drop start).findIdx? fun line =>
    !Text.allBlank line).map (start + ·)

/-
  The last line in front of `stop`, and not in front of
  `start`, that is not blank.
-/
def lastFilled?
    (lines : Lines)
    (start : Nat) :
    (stop : Nat) → Option Nat
  | 0 => none
  | stop + 1 =>
      if stop < start then
        none
      else if Text.allBlank (Lines.get lines stop) then
        lastFilled? lines start stop
      else
        some stop

end Lines

end NotifyScope
