import NotifyScope.Text.Alphanumeric
import NotifyScope.Text.Blank

/-
  This file defines identifiers and the renaming of whole
  identifiers inside a text.

  Key definitions include:
    * `Identifier.isPart`
    * `Identifier.isName`
    * `Identifier.standsAlone`
    * `Identifier.rename`
-/

namespace NotifyScope

namespace Identifier

------------------------------------------------------------
-- Names
------------------------------------------------------------

/-
  Identifiers are made of letters and digits of any script,
  underscores and dollar signs.
-/
def isPart
    (c : Char) : Bool :=
  Text.isAlphanumeric c || c == '_' || c == '$'

/- A name is a nonempty run of identifier characters. -/
def isName
    (text : Text) : Bool :=
  !text.isEmpty && text.all isPart

------------------------------------------------------------
-- Renaming
------------------------------------------------------------

/-
  An occurrence stands alone if neither of its neighbours
  could continue it as an identifier.
-/
def standsAlone
    (before after : Option Char) : Bool :=
  !before.any isPart && !after.any isPart

/-
  Put `new` at every position that has no identifier
  character on either side.
-/
def insertAtGaps
    (new : Text) :
    Option Char → Text → Text × Nat
  | before, [] =>
      if standsAlone before none then (new, 1) else ([], 0)
  | before, c :: rest =>
      let (text, count) := insertAtGaps new (some c) rest
      if standsAlone before (some c) then
        (new ++ c :: text, count + 1)
      else
        (c :: text, count)

/-
  Rename from a position on.  The first `skip` characters
  belong to an occurrence that is settled already, and
  `before` is the character in front of the position.
-/
def renameFrom
    (old new : Text) :
    Nat → Option Char → Text → Text × Nat
  | _, _, [] => ([], 0)
  | skip + 1, _, c :: rest =>
      renameFrom old new skip (some c) rest
  | 0, before, c :: rest =>
      if old.isPrefixOf (c :: rest) then
        let after := ((c :: rest).drop old.length).head?
        let (text, count) :=
          renameFrom old new (old.length - 1) (some c) rest
        if standsAlone before after then
          (new ++ text, count + 1)
        else
          (old ++ text, count)
      else
        let (text, count) :=
          renameFrom old new 0 (some c) rest
        (c :: text, count)

/-
  Replace the occurrences of `old` that stand alone by `new`,
  and count them.  Occurrences are taken from left to right
  without overlap, those that do not stand alone included.
  The empty text occurs at every position.
-/
def rename
    (old new text : Text) : Text × Nat :=
  if old.isEmpty then
    insertAtGaps new none text
  else
    renameFrom old new 0 none text

end Identifier

end NotifyScope
