import NotifyScope.Diff.Compact

/-
  This file writes an edit script as a unified diff.

  Key definitions include:
    * `Diff.Segment`
    * `Diff.segments`
    * `Diff.hunks`
    * `Diff.Hunk.header`
    * `Diff.unified`
-/

namespace NotifyScope

namespace Diff

------------------------------------------------------------
-- Segments
------------------------------------------------------------

/-
  A range of each text: the same lines, or lines of the old
  text that those of the new text replace.
-/
structure Segment where
  isEqual : Bool
  old : Nat
  oldLength : Nat
  new : Nat
  newLength : Nat
deriving DecidableEq, Repr

namespace Segment

/- The segment of one operation. -/
def ofOperation
    (operation : Operation) : Segment :=
  { isEqual := operation.kind == .equal
    old := operation.old
    oldLength := operation.oldLength
    new := operation.new
    newLength := operation.newLength }

end Segment

/- Changes that are waiting for the next equal lines. -/
structure Pending where
  deleted : Option Operation := none
  inserted : Option Operation := none
deriving DecidableEq, Repr

namespace Pending

/- The segment that pending changes make up. -/
def segments
    (pending : Pending) : List Segment :=
  match pending.deleted, pending.inserted with
  | none, none => []
  | some operation, none | none, some operation =>
      [.ofOperation operation]
  | some deleted, some inserted =>
      [{ isEqual := false
         old := deleted.old
         oldLength := deleted.length
         new := inserted.new
         newLength := inserted.length }]

/- Join an operation to one of the same kind. -/
def join
    (operation : Operation) : Option Operation → Operation
  | none => operation
  | some first =>
      { first with
        length := first.length + operation.length }

end Pending

/-
  The segments of a script.  Equal lines next to each other
  become one segment, and so do the changes between them.
-/
def segmentsFrom
    (equal : Option Operation)
    (pending : Pending) : List Operation → List Segment
  | [] =>
      equal.toList.map Segment.ofOperation ++
        pending.segments
  | operation :: rest =>
      match operation.kind with
      | .equal =>
          pending.segments ++
            segmentsFrom
              (some (Pending.join operation equal)) {} rest
      | .delete =>
          equal.toList.map Segment.ofOperation ++
            segmentsFrom none
              { pending with
                deleted := some
                  (Pending.join operation pending.deleted) }
              rest
      | .insert =>
          equal.toList.map Segment.ofOperation ++
            segmentsFrom none
              { pending with
                inserted := some
                  (Pending.join operation
                    pending.inserted) }
              rest

/- The segments of a script. -/
def segments
    (operations : List Operation) : List Segment :=
  segmentsFrom none {} operations

------------------------------------------------------------
-- Hunks
------------------------------------------------------------

/- A list of segments that are shown together. -/
abbrev Hunk := List Segment

/- How many equal lines are shown around changes. -/
def context : Nat := 3

namespace Segment

/- The first lines of an equal segment. -/
def keepFirst
    (count : Nat)
    (segment : Segment) : Segment :=
  if segment.isEqual then
    { segment with
      oldLength := min count segment.oldLength
      newLength := min count segment.oldLength }
  else
    segment

/- The last lines of an equal segment. -/
def keepLast
    (count : Nat)
    (segment : Segment) : Segment :=
  if segment.isEqual then
    let offset := segment.oldLength - count
    { segment with
      old := segment.old + offset
      oldLength := segment.oldLength - offset
      new := segment.new + offset
      newLength := segment.oldLength - offset }
  else
    segment

end Segment

/- Whether segments say nothing but that lines are equal. -/
def isQuiet : Hunk → Bool
  | [] => true
  | [segment] => segment.isEqual
  | _ => false

/-
  Divide segments where many lines are equal.  The current
  hunk comes last segment first.
-/
def group
    (current : Hunk) : List Segment → List Hunk
  | [] =>
      if isQuiet current then [] else [current.reverse]
  | segment :: rest =>
      if segment.isEqual ∧
          2 * context < segment.oldLength then
        (segment.keepFirst context :: current).reverse ::
          group [segment.keepLast context] rest
      else
        group (segment :: current) rest

/- Change the last element of a list. -/
def modifyLast
    {α : Type}
    (change : α → α) : List α → List α
  | [] => []
  | [a] => [change a]
  | a :: rest => a :: modifyLast change rest

/-
  The hunks of a script.  Equal lines at both ends of the
  texts are cut down first.
-/
def hunks
    (segments : List Segment) : List Hunk :=
  group []
    (modifyLast (Segment.keepFirst context)
      (segments.modifyHead (Segment.keepLast context)))

namespace Hunk

/- A range in a header, with lines counted from one. -/
def range
    (start stop : Nat) : String :=
  if stop - start = 1 then
    toString (start + 1)
  else if stop - start = 0 then
    toString start ++ ",0"
  else
    toString (start + 1) ++ "," ++ toString (stop - start)

/- The header of a hunk, from its first to its last line. -/
def header
    (hunk : Hunk) : String :=
  match hunk.head?, hunk.getLast? with
  | some first, some last =>
      "@@ -" ++
        range first.old (last.old + last.oldLength) ++
        " +" ++
        range first.new (last.new + last.newLength) ++ " @@"
  | _, _ => ""

end Hunk

------------------------------------------------------------
-- Text
------------------------------------------------------------

/- A line with its sign.  It always ends in a newline. -/
def signed
    (sign : Char)
    (line : Text) : Text :=
  if line.getLast? = some '\n' then
    sign :: line
  else
    sign :: line ++ ['\n']

/- The lines of a range. -/
def slice
    (lines : Array Text)
    (start length : Nat) : List Text :=
  (lines.extract start (start + length)).toList

/- The lines of a segment with their signs. -/
def Segment.lines
    (old new : Array Text)
    (segment : Segment) : List Text :=
  if segment.isEqual then
    (slice old segment.old segment.oldLength).map
      (signed ' ')
  else
    (slice old segment.old segment.oldLength).map
        (signed '-') ++
      (slice new segment.new segment.newLength).map
        (signed '+')

/- A hunk with its header. -/
def Hunk.lines
    (old new : Array Text)
    (hunk : Hunk) : List Text :=
  (hunk.header.toList ++ ['\n']) ::
    hunk.flatMap (Segment.lines old new)

/- The hunks that turn one text into another. -/
def compare
    (old new : Array Text) : List Hunk :=
  hunks (segments (compact old new (script old new)))

/-
  The unified diff of two texts under a name.  A diff of what
  is only proposed says so.
-/
def unified
    (name : String)
    (proposed : Bool)
    (before after : Text) : Text :=
  if before = after then
    []
  else
    let old := (splitLines before).toArray
    let new := (splitLines after).toArray
    ("--- a/" ++ name ++ "\n").toList ++
      ("+++ b/" ++ name ++
        (if proposed then " (proposed)" else "") ++
        "\n").toList ++
      ((compare old new).flatMap
        (Hunk.lines old new)).flatten

end Diff

end NotifyScope
