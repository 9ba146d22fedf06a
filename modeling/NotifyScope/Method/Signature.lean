import NotifyScope.Method.Basic

/-
  This file renames a declaration, puts the marker line above
  it, and renames the references that are left.

  Key definitions include:
    * `Lines.insertMarker`
    * `Method.renameDeclaration`
    * `Lines.renameAll`
-/

namespace NotifyScope

------------------------------------------------------------
-- Markers
------------------------------------------------------------

namespace Lines

/-
  Whether the line directly above `i` is the marker.
-/
def hasMarkerAbove
    (lines : Lines)
    (i : Nat)
    (marker : Line) : Bool :=
  match i with
  | 0 => false
  | above + 1 => Text.trim (Lines.get lines above) == marker

/-
  Make sure that the marker stands directly above line `i`,
  and tell whether it had to be inserted.
-/
def insertMarker
    (lines : Lines)
    (i : Nat)
    (indent : Text)
    (marker : Line) : Lines × Bool :=
  if hasMarkerAbove lines i marker then
    (lines, false)
  else
    (lines.insertIdx i (indent ++ marker), true)

end Lines

------------------------------------------------------------
-- Signatures
------------------------------------------------------------

/- What rewriting a signature changed. -/
structure DeclarationChange where
  renamed : Bool
  markerInserted : Bool
deriving DecidableEq, Repr

namespace Rule

/- A line with the old name replaced, and how often. -/
def renameLine
    (rule : Rule)
    (line : Line) : Line × Nat :=
  if rule.oldName = rule.newName then
    (line, 0)
  else
    Identifier.rename rule.oldName rule.newName line

end Rule

namespace Method

/-
  Rename the declaration and put the marker above it.  The
  marker moves every line from the declaration on.
-/
def renameDeclaration
    (rule : Rule)
    (method : Method)
    (lines : Lines) : Lines × DeclarationChange :=
  let (line, count) :=
    rule.renameLine (Lines.get lines method.start)
  let renamed := lines.set method.start line
  match rule.marker with
  | none =>
      (renamed,
        { renamed := decide (0 < count)
          markerInserted := false })
  | some marker =>
      let (marked, inserted) :=
        Lines.insertMarker renamed method.start
          method.indent marker
      (marked,
        { renamed := decide (0 < count)
          markerInserted := inserted })

end Method

------------------------------------------------------------
-- References
------------------------------------------------------------

namespace Lines

/- Rename every reference to the old name and count them. -/
def renameAll
    (rule : Rule)
    (lines : Lines) : Lines × Nat :=
  let results := lines.map rule.renameLine
  (results.map Prod.fst,
    results.foldr (fun (_, count) total => count + total) 0)

end Lines

end NotifyScope
