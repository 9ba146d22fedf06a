import NotifyScope.Block
import NotifyScope.Rule.Basic

/-
  This file finds wrappers that earlier rewrites left behind:
  a wrapper directly inside another, and a closing line in
  the place of a method's own.

  Key definitions include:
    * `Wrapper.StackedPair`
    * `Wrapper.stackedAt?`
    * `Wrapper.surplusClose?`
-/

namespace NotifyScope

namespace Wrapper

------------------------------------------------------------
-- Stacked Wrappers
------------------------------------------------------------

/-
  The lines of a wrapper that directly holds another one,
  apart from its own opening line.
-/
structure StackedPair where
  innerOpen : Nat
  innerClose : Nat
  outerClose : Nat
deriving DecidableEq, Repr

/-
  The wrapper opened on line `i`, if all it holds is another
  wrapper: the two opening lines and the two closing lines
  stand together, up to blank lines.
-/
def stackedAt?
    (rule : Rule)
    (lines : Lines)
    (i : Nat) : Option StackedPair :=
  if rule.opensWrapper (Lines.get lines i) then
    match Lines.nextFilled? lines (i + 1) with
    | none => none
    | some innerOpen =>
        if rule.opensWrapper (Lines.get lines innerOpen) then
          match Block.close? lines i,
              Block.close? lines innerOpen with
          | some outerClose, some innerClose =>
              if Lines.nextFilled? lines (innerClose + 1) =
                    some outerClose &&
                  rule.closesEither
                    (Lines.get lines innerClose) &&
                  rule.closesEither
                    (Lines.get lines outerClose) then
                some { innerOpen, innerClose, outerClose }
              else
                none
          | _, _ => none
        else
          none
  else
    none

------------------------------------------------------------
-- Surplus Closing Lines
------------------------------------------------------------

/-
  The closing line below the closing line `i`, if it took the
  place of the line that closes a method.  One of the two has
  to be annotated.
-/
def surplusClose?
    (rule : Rule)
    (lines : Lines)
    (i : Nat) : Option Nat :=
  if rule.closesEither (Lines.get lines i) then
    match Lines.nextFilled? lines (i + 1) with
    | none => none
    | some below =>
        if rule.closesEither (Lines.get lines below) &&
            (rule.closesAnnotated (Lines.get lines i) ||
              rule.closesAnnotated (Lines.get lines below))
        then
          match Block.open? lines below with
          | none => none
          | some opener =>
              if (rule.declaredName?
                  (Lines.get lines opener)).isSome then
                some below
              else
                none
        else
          none
  else
    none

end Wrapper

end NotifyScope
