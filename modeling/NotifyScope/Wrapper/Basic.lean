import NotifyScope.Method.Basic
import NotifyScope.Wrapper.Stacked

/-
  This file defines how a method body relates to the scope of
  a state change, and wraps a body that has no such scope.

  Key definitions include:
    * `BodyState`
    * `Method.bodyState`
    * `NewWrapper`
    * `Method.wrap`
-/

namespace NotifyScope

------------------------------------------------------------
-- States
------------------------------------------------------------

/- How a method body relates to the scope. -/
inductive BodyState where
  /- No wrapper spans the body. -/
  | unwrapped
  /- The body is one wrapper, closed as it should be. -/
  | canonical
  /- The body is one wrapper, closed with an annotation. -/
  | legacy
  /- The body is wrapped twice or closed twice. -/
  | doubled
deriving DecidableEq, Repr

namespace BodyState

/- The words for a state. -/
def label : BodyState → String
  | unwrapped => "unwrapped"
  | canonical => "canonical"
  | legacy => "legacy close"
  | doubled => "double wrap"

end BodyState

namespace Method

/-
  Classify a body by its first and its last line that are not
  blank.
-/
def bodyState
    (rule : Rule)
    (method : Method)
    (lines : Lines) : BodyState :=
  match Lines.lastFilled? lines (method.start + 1)
      method.stop with
  | none => .unwrapped
  | some last =>
      let first :=
        (Lines.nextFilled? lines (method.start + 1)).getD
          last
      if (Wrapper.surplusClose? rule lines last).isSome then
        .doubled
      else if first = last ||
          !rule.opensWrapper (Lines.get lines first) then
        .unwrapped
      else if
          (Wrapper.stackedAt? rule lines first).isSome then
        .doubled
      else if Block.close? lines first ≠ some last then
        .unwrapped
      else if rule.closesWrapper (Lines.get lines last) then
        .canonical
      else if rule.closesAnnotated (Lines.get lines last) then
        .legacy
      else
        .unwrapped

end Method

------------------------------------------------------------
-- Wrapping
------------------------------------------------------------

/- Where the lines of a new wrapper are. -/
structure NewWrapper where
  openLine : Nat
  closeLine : Nat
deriving DecidableEq, Repr

namespace Line

/- Indent a line further, unless it is blank. -/
def shift
    (unit : Text)
    (line : Line) : Line :=
  if Text.allBlank line then line else unit ++ line

end Line

namespace Method

/-
  Put a wrapper around the body, one level deeper than the
  declaration.
-/
def wrap
    (rule : Rule)
    (reindent : Bool)
    (method : Method)
    (lines : Lines) : Lines × NewWrapper :=
  let indent := method.indent ++ method.unit
  let interior := method.interior lines
  let body :=
    if reindent then
      interior.map (Line.shift method.unit)
    else
      interior
  (lines.take (method.start + 1) ++
      (indent ++ rule.wrapOpen) :: body ++
      (indent ++ rule.wrapClose) ::
        lines.drop method.stop,
    { openLine := method.start + 1
      closeLine := method.stop + 1 })

end Method

end NotifyScope
