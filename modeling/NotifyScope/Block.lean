import NotifyScope.Line

/-
  This file defines blocks of lines by the depth of braces:
  the line that closes a block, found forward from the line
  that opens it, and the line that opens it, found backward.

  Key definitions include:
    * `Block.closeOffset?`
    * `Block.close?`
    * `Block.openOffset?`
    * `Block.open?`
-/

namespace NotifyScope

namespace Block

------------------------------------------------------------
-- Forward
------------------------------------------------------------

/-
  The first line after which the depth is zero.  A line that
  drives the depth below zero ends the search.
-/
def closeOffset?
    (depth : Int) :
    Lines → Option Nat
  | [] => none
  | line :: rest =>
      let after := depth + Line.braceBalance line
      if after = 0 then
        some 0
      else if after < 0 then
        none
      else
        (closeOffset? after rest).map (· + 1)

/-
  The line that closes the block opened on line `start`.  The
  depth behind `start` is taken to be one.
-/
def close?
    (lines : Lines)
    (start : Nat) : Option Nat :=
  (closeOffset? 1 (lines.drop (start + 1))).map
    (start + 1 + ·)

------------------------------------------------------------
-- Backward
------------------------------------------------------------

/-
  The first line, going backward, in front of which nothing
  is missing any more.  A line that opens more than is
  missing ends the search.
-/
def openOffset?
    (missing : Int) :
    Lines → Option Nat
  | [] => none
  | line :: rest =>
      let before := missing - Line.braceBalance line
      if before = 0 then
        some 0
      else if before < 0 then
        none
      else
        (openOffset? before rest).map (· + 1)

/-
  The line that opened the block closed on line `stop`, if
  that line closes more than it opens.
-/
def open?
    (lines : Lines)
    (stop : Nat) : Option Nat :=
  let missing := -Line.braceBalance (Lines.get lines stop)
  if missing ≤ 0 then
    none
  else
    (openOffset? missing (lines.take stop).reverse).map
      (stop - 1 - ·)

------------------------------------------------------------
-- Bounds
------------------------------------------------------------

/- The offset of a closing line is inside the list. -/
theorem closeOffset?_lt
    {depth : Int}
    {lines : Lines}
    {k : Nat}
    (h : closeOffset? depth lines = some k) :
    k < lines.length := by
  induction lines generalizing depth k with
  | nil => simp [closeOffset?] at h
  | cons line rest ih =>
      simp only [closeOffset?] at h
      split at h
      · simp at h
        simp [← h]
      · split at h
        · simp at h
        · rw [Option.map_eq_some_iff] at h
          obtain ⟨j, hj, rfl⟩ := h
          have := ih hj
          simp
          omega

/- A block closes after the line that opens it. -/
theorem lt_close?
    {lines : Lines}
    {start stop : Nat}
    (h : close? lines start = some stop) :
    start < stop := by
  rw [close?, Option.map_eq_some_iff] at h
  obtain ⟨k, _, rfl⟩ := h
  omega

/- The line that closes a block is one of the lines. -/
theorem close?_lt_length
    {lines : Lines}
    {start stop : Nat}
    (h : close? lines start = some stop) :
    stop < lines.length := by
  rw [close?, Option.map_eq_some_iff] at h
  obtain ⟨k, hk, rfl⟩ := h
  have := closeOffset?_lt hk
  simp only [List.length_drop] at this
  omega

end Block

namespace Lines

/- The next line that is not blank is one of the lines. -/
theorem nextFilled?_lt_length
    {lines : Lines}
    {start i : Nat}
    (h : nextFilled? lines start = some i) :
    i < lines.length := by
  rw [nextFilled?, Option.map_eq_some_iff] at h
  obtain ⟨k, hk, rfl⟩ := h
  rw [List.findIdx?_eq_some_iff_getElem] at hk
  obtain ⟨hlt, _⟩ := hk
  simp only [List.length_drop] at hlt
  omega

/- The next line that is not blank is not before the start. -/
theorem le_nextFilled?
    {lines : Lines}
    {start i : Nat}
    (h : nextFilled? lines start = some i) :
    start ≤ i := by
  rw [nextFilled?, Option.map_eq_some_iff] at h
  obtain ⟨k, _, rfl⟩ := h
  omega

end Lines

end NotifyScope
