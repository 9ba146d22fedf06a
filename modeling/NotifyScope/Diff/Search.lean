import NotifyScope.Diff.Script

/-
  This file searches for a short edit script.  It divides the
  texts at a snake in the middle of a shortest script, which
  two searches find that go towards each other.

  Key definitions include:
    * `Diff.Box`
    * `Diff.Frontier`
    * `Diff.split?`
    * `Diff.search`
-/

namespace NotifyScope

namespace Diff

------------------------------------------------------------
-- Boxes
------------------------------------------------------------

/- A range of lines of each text. -/
structure Box where
  oldStart : Nat
  oldStop : Nat
  newStart : Nat
  newStop : Nat
deriving DecidableEq, Repr

namespace Box

/- The number of old lines. -/
def width
    (box : Box) : Nat :=
  box.oldStop - box.oldStart

/- The number of new lines. -/
def height
    (box : Box) : Nat :=
  box.newStop - box.newStart

/- How many more old lines there are than new ones. -/
def delta
    (box : Box) : Int :=
  (box.width : Int) - box.height

/- How many lines the two ranges start with in common. -/
def prefixFrom
    (old new : Array Text)
    (box : Box)
    (x y : Nat) : Nat :=
  prefixLength old new
    (min (box.width - x) (box.height - y))
    (box.oldStart + x) (box.newStart + y)

/- How many lines the two ranges end with in common. -/
def suffixFrom
    (old new : Array Text)
    (box : Box)
    (x y : Nat) : Nat :=
  suffixLength old new
    (min (box.width - x) (box.height - y))
    (box.oldStop - x) (box.newStop - y)

end Box

------------------------------------------------------------
-- Frontiers
------------------------------------------------------------

/-
  How far a search got on each diagonal.  The diagonal `k`
  has the place `k + origin`.
-/
structure Frontier where
  origin : Nat
  reached : Array Nat

namespace Frontier

/- A frontier for diagonals up to `bound` on both sides. -/
def start
    (bound : Nat) : Frontier :=
  { origin := bound + 1
    reached := Array.replicate (2 * bound + 3) 0 }

/- How far the search got on a diagonal. -/
def get
    (frontier : Frontier)
    (k : Int) : Nat :=
  frontier.reached.getD (k + frontier.origin).toNat 0

/- Note how far the search got on a diagonal. -/
def set
    (frontier : Frontier)
    (k : Int)
    (x : Nat) : Frontier :=
  { frontier with
    reached := frontier.reached.setIfInBounds
      (k + frontier.origin).toNat x }

/-
  Where a path with `d` edits enters diagonal `k`: from the
  neighbour that got further.
-/
def entry
    (frontier : Frontier)
    (d : Nat)
    (k : Int) : Nat :=
  if k = -d ∨
      (k ≠ d ∧
        frontier.get (k - 1) < frontier.get (k + 1)) then
    frontier.get (k + 1)
  else
    frontier.get (k - 1) + 1

end Frontier

/- The diagonals that a path with `d` edits can end on. -/
def diagonals
    (d : Nat) : List Int :=
  (List.range (d + 1)).map fun (i : Nat) =>
    (d : Int) - 2 * i

/- The result of a step of a search. -/
inductive Advance where
  /- The two searches met at a position of the texts. -/
  | met (old new : Nat)
  /- They did not meet. -/
  | apart (frontier : Frontier)

/-
  Go forward along diagonals.  Both searches can meet here if
  the delta is odd.
-/
def forward
    (old new : Array Text)
    (box : Box)
    (d : Nat)
    (backward : Frontier) :
    List Int → Frontier → Advance
  | [], frontier => .apart frontier
  | k :: rest, frontier =>
      let x := frontier.entry d k
      let y := ((x : Int) - k).toNat
      let next :=
        frontier.set k (x + box.prefixFrom old new x y)
      let mirror := k - box.delta
      if box.delta % 2 = 1 ∧
          mirror.natAbs + 1 ≤ d ∧
          box.width ≤
            next.get k + backward.get (-mirror) then
        .met (box.oldStart + x) (box.newStart + y)
      else
        forward old new box d backward rest next

/-
  Go backward along diagonals.  Both searches can meet here
  if the delta is even.
-/
def backward
    (old new : Array Text)
    (box : Box)
    (d : Nat)
    (ahead : Frontier) :
    List Int → Frontier → Advance
  | [], frontier => .apart frontier
  | k :: rest, frontier =>
      let x := frontier.entry d k
      let y := ((x : Int) - k).toNat
      let snake := box.suffixFrom old new x y
      let next := frontier.set k (x + snake)
      let mirror := k - box.delta
      if box.delta % 2 = 0 ∧ mirror.natAbs ≤ d ∧
          box.width ≤ next.get k + ahead.get (-mirror) then
        .met (box.oldStop - (x + snake))
          (box.newStop - (y + snake))
      else
        backward old new box d ahead rest next

/-
  Allow one edit more in both directions until the searches
  meet.
-/
def approach
    (old new : Array Text)
    (box : Box) :
    (rounds d : Nat) → (ahead behind : Frontier) →
      Option (Nat × Nat)
  | 0, _, _, _ => none
  | rounds + 1, d, ahead, behind =>
      match forward old new box d behind (diagonals d)
          ahead with
      | .met x y => some (x, y)
      | .apart ahead =>
          match backward old new box d ahead (diagonals d)
              behind with
          | .met x y => some (x, y)
          | .apart behind =>
              approach old new box rounds (d + 1) ahead
                behind

/- A position in the middle of a short script. -/
def split?
    (old new : Array Text)
    (box : Box) : Option (Nat × Nat) :=
  let rounds := (box.width + box.height + 1) / 2 + 1
  let start := Frontier.start rounds
  approach old new box rounds 0 start start

------------------------------------------------------------
-- Scripts
------------------------------------------------------------

/- An operation, unless it covers no line. -/
def operation
    (kind : Kind)
    (old new length : Nat) : List Operation :=
  if length = 0 then [] else [{ kind, old, new, length }]

/-
  A script for the lines of a box: what the ranges have in
  common at both ends, and between them the scripts of the
  two boxes at the split.  Where the fuel or the search ends,
  all lines are replaced.
-/
def search
    (old new : Array Text) :
    (fuel : Nat) → Box → List Operation
  | fuel, box =>
      let head := box.prefixFrom old new 0 0
      let rest : Box :=
        { box with
          oldStart := box.oldStart + head
          newStart := box.newStart + head }
      let tail := rest.suffixFrom old new 0 0
      let core : Box :=
        { rest with
          oldStop := rest.oldStop - tail
          newStop := rest.newStop - tail }
      let replaced :=
        operation .delete core.oldStart core.newStart
            core.width ++
          operation .insert core.oldStart core.newStart
            core.height
      let middle :=
        if core.width = 0 ∨ core.height = 0 then
          replaced
        else
          match fuel, split? old new core with
          | fuel + 1, some (x, y) =>
              search old new fuel
                  { core with oldStop := x, newStop := y } ++
                search old new fuel
                  { core with oldStart := x, newStart := y }
          | _, _ => replaced
      operation .equal box.oldStart box.newStart head ++
        middle ++
        operation .equal core.oldStop core.newStop tail

/- A script for two texts. -/
def script
    (old new : Array Text) : List Operation :=
  search old new (old.size + new.size)
    { oldStart := 0
      oldStop := old.size
      newStart := 0
      newStop := new.size }

end Diff

end NotifyScope
