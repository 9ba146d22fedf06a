import NotifyScope.Block
import NotifyScope.Rule.Basic

/-
  This file defines the methods that a rule targets in a list
  of lines, and finds them in one pass.

  Key definitions include:
    * `Method`
    * `Method.interior`
    * `Method.inferUnit?`
    * `LocateError`
    * `Method.scan`
    * `Method.locate`
-/

namespace NotifyScope

------------------------------------------------------------
-- Methods
------------------------------------------------------------

/-
  A method declaration with its body.  The body runs from the
  declaration line to the line that closes it.
-/
structure Method where
  /- The name on the declaration line. -/
  name : Text
  /- The number of the declaration line. -/
  start : Nat
  /- The number of the closing line. -/
  stop : Nat
  /- The white space in front of the declaration. -/
  indent : Text
  /- What one level of indentation adds to it. -/
  unit : Text
deriving DecidableEq, Repr

namespace Method

/- Lines strictly between declaration and closing line. -/
def interior
    (method : Method)
    (lines : Lines) : Lines :=
  (lines.drop (method.start + 1)).take
    (method.stop - method.start - 1)

/-
  What the first line indented deeper than `indent` adds to
  it.  Blank lines do not count.
-/
def inferUnit?
    (body : Lines)
    (indent : Text) : Option Text :=
  body.findSome? fun line =>
    if Text.allBlank line then
      none
    else
      let leading := Text.leading line
      if indent.isPrefixOf leading &&
          indent.length < leading.length then
        some (leading.drop indent.length)
      else
        none

end Method

------------------------------------------------------------
-- Failures
------------------------------------------------------------

/-
  What keeps a declaration from being a method.
-/
inductive LocateError where
  /- The block opened on a line never closes. -/
  | unbalanced (start : Nat)
  /- A declaration inside the body of another method. -/
  | nested (line enclosing : Nat)
deriving DecidableEq, Repr

namespace LocateError

/- The text that names the lines, counted from one. -/
def message : LocateError → String
  | unbalanced start =>
      "block opened on line " ++ toString (start + 1) ++
        " never closes before end of file"
  | nested line enclosing =>
      "declaration on line " ++ toString (line + 1) ++
        " lies inside the method declared on line " ++
        toString (enclosing + 1)

end LocateError

------------------------------------------------------------
-- Location
------------------------------------------------------------

namespace Method

/-
  The name that a line declares, if the line also opens one
  block more than it closes.
-/
def opener?
    (rule : Rule)
    (line : Line) : Option Text :=
  match rule.declaredName? line with
  | none => none
  | some name =>
      if Line.braceBalance line = 1 then
        some name
      else
        none

/-
  Whether a line lies in the body found last, if any, given
  by its first and its last line.
-/
def enclosing?
    (line : Nat)
    (body : Option (Nat × Nat)) : Option Nat :=
  match body with
  | none => none
  | some (start, stop) =>
      if start ≤ line ∧ line ≤ stop then
        some start
      else
        none

/-
  The declarations among the lines that remain, the first of
  which has the number `i`.  After a failure the scan goes on
  with the next line.
-/
def scan
    (rule : Rule)
    (fallback : Text) :
    (i : Nat) → Option (Nat × Nat) → Lines →
      List (Except LocateError Method)
  | _, _, [] => []
  | i, body, line :: rest =>
      match opener? rule line with
      | none => scan rule fallback (i + 1) body rest
      | some name =>
          match enclosing? i body with
          | some start =>
              .error (.nested i start) ::
                scan rule fallback (i + 1) body rest
          | none =>
              match Block.closeOffset? 1 rest with
              | none =>
                  .error (.unbalanced i) ::
                    scan rule fallback (i + 1) body rest
              | some k =>
                  let stop := i + 1 + k
                  let indent := Text.leading line
                  let unit := inferUnit? (rest.take k) indent
                  .ok
                      { name, start := i, stop, indent
                        unit := unit.getD fallback } ::
                    scan rule fallback (i + 1)
                      (some (i, stop)) rest

/-
  The declarations that a rule targets, in their order.  The
  unit of indentation is `fallback` where a body shows none.
-/
def locate
    (rule : Rule)
    (fallback : Text)
    (lines : Lines) :
    List (Except LocateError Method) :=
  scan rule fallback 0 none lines

end Method

end NotifyScope
