import NotifyScope.Wrapper.Basic

/-
  This file repairs a method that earlier rewrites damaged:
  stacked wrappers become one, a closing line in the place of
  the method's own is removed, and annotated closing lines
  lose their annotation.

  Key definitions include:
    * `Lines.outdent`
    * `Repair.collapse?`
    * `Repair.dropSurplus?`
    * `Repair.settle`
    * `Repair.normalize`
    * `Method.repair`

  Main theorem:
    * `Repair.settle` ends, since each of its steps removes a
      line: `length_collapse?_lt`, `length_dropSurplus?_lt`
-/

namespace NotifyScope

------------------------------------------------------------
-- Outdenting
------------------------------------------------------------

namespace Line

/-
  Replace the white space `inner` in front of a line by
  `outer`.  A line that starts otherwise stays as it is.
-/
def outdent
    (outer inner : Text)
    (line : Line) : Line :=
  if inner.isPrefixOf line then
    outer ++ line.drop inner.length
  else
    line

end Line

namespace Lines

/-
  Shift the lines between `inner` and `stop` back from the
  level of line `inner` to the level of line `outer`, if that
  one is a part of the first.
-/
def outdent
    (lines : Lines)
    (outer inner stop : Nat) : Lines :=
  let outerLead := Text.leading (Lines.get lines outer)
  let innerLead := Text.leading (Lines.get lines inner)
  if outerLead.isPrefixOf innerLead then
    lines.mapIdx fun i line =>
      if inner < i ∧ i < stop then
        Line.outdent outerLead innerLead line
      else
        line
  else
    lines

/- Outdenting keeps the number of lines. -/
theorem length_outdent
    (lines : Lines)
    (outer inner stop : Nat) :
    (outdent lines outer inner stop).length =
      lines.length := by
  simp only [outdent]
  split <;> simp

end Lines

namespace Repair

------------------------------------------------------------
-- Steps
------------------------------------------------------------

/-
  Remove the inner one of two stacked wrappers that start the
  body of the method declared on line `start`.
-/
def collapse?
    (rule : Rule)
    (start : Nat)
    (lines : Lines) : Option Lines :=
  match Block.close? lines start,
      Lines.nextFilled? lines (start + 1) with
  | some stop, some first =>
      if first < stop then
        match Wrapper.stackedAt? rule lines first with
        | some pair =>
            if pair.outerClose < stop then
              some
                (((Lines.outdent lines first pair.innerOpen
                  pair.innerClose).eraseIdx
                    pair.innerClose).eraseIdx
                      pair.innerOpen)
            else
              none
        | none => none
      else
        none
  | _, _ => none

/-
  Remove the line that closes the method declared on line
  `start`, if it is a surplus one.
-/
def dropSurplus?
    (rule : Rule)
    (start : Nat)
    (lines : Lines) : Option Lines :=
  match Block.close? lines start with
  | none => none
  | some stop =>
      match Lines.lastFilled? lines (start + 1) stop with
      | none => none
      | some last =>
          if Wrapper.surplusClose? rule lines last =
              some stop then
            some (lines.eraseIdx stop)
          else
            none

------------------------------------------------------------
-- Fewer Lines
------------------------------------------------------------

/- A stacked pair lies inside the lines. -/
theorem innerOpen_lt_length
    {rule : Rule}
    {lines : Lines}
    {i : Nat}
    {pair : Wrapper.StackedPair}
    (h : Wrapper.stackedAt? rule lines i = some pair) :
    pair.innerOpen < lines.length := by
  simp only [Wrapper.stackedAt?] at h
  split at h
  · split at h
    · simp at h
    · rename_i innerOpen hInner
      split at h
      · split at h
        · split at h
          · simp only [Option.some.injEq] at h
            rw [← h]
            exact Lines.nextFilled?_lt_length hInner
          · simp at h
        · simp at h
      · simp at h
  · simp at h

/- Collapsing a stacked pair leaves fewer lines. -/
theorem length_collapse?_lt
    {rule : Rule}
    {start : Nat}
    {lines next : Lines}
    (h : collapse? rule start lines = some next) :
    next.length < lines.length := by
  simp only [collapse?] at h
  split at h
  · split at h
    · split at h
      · rename_i pair hPair
        split at h
        · simp only [Option.some.injEq] at h
          have hLt := innerOpen_lt_length hPair
          rw [← h]
          simp only [List.length_eraseIdx,
            Lines.length_outdent]
          repeat' split
          all_goals omega
        · simp at h
      · simp at h
    · simp at h
  · simp at h

/- Dropping a surplus closing line leaves fewer lines. -/
theorem length_dropSurplus?_lt
    {rule : Rule}
    {start : Nat}
    {lines next : Lines}
    (h : dropSurplus? rule start lines = some next) :
    next.length < lines.length := by
  simp only [dropSurplus?] at h
  split at h
  · simp at h
  · rename_i stop hStop
    split at h
    · simp at h
    · split at h
      · simp only [Option.some.injEq] at h
        have hLt := Block.close?_lt_length hStop
        rw [← h]
        simp only [List.length_eraseIdx]
        split <;> omega
      · simp at h

------------------------------------------------------------
-- Fixed Point
------------------------------------------------------------

/- How often each kind of repair was made. -/
structure Report where
  collapsed : Nat := 0
  dropped : Nat := 0
  normalized : Nat := 0
deriving DecidableEq, Repr

/- The number of repairs. -/
def Report.total
    (report : Report) : Nat :=
  report.collapsed + report.dropped + report.normalized

/-
  Collapse and drop until neither step applies.  Collapsing
  goes first.
-/
def settle
    (rule : Rule)
    (start : Nat)
    (lines : Lines) : Lines × Report :=
  match _ : collapse? rule start lines with
  | some next =>
      let (settled, report) := settle rule start next
      (settled,
        { report with collapsed := report.collapsed + 1 })
  | none =>
      match _ : dropSurplus? rule start lines with
      | some next =>
          let (settled, report) := settle rule start next
          (settled,
            { report with dropped := report.dropped + 1 })
      | none => (lines, {})
termination_by lines.length
decreasing_by
  · exact length_collapse?_lt (by assumption)
  · exact length_dropSurplus?_lt (by assumption)

------------------------------------------------------------
-- Annotations
------------------------------------------------------------

/-
  Take the annotations off the closing lines between `start`
  and the line that closes its block, and count them.
-/
def normalize
    (rule : Rule)
    (start : Nat)
    (lines : Lines) : Lines × Nat :=
  match Block.close? lines start with
  | none => (lines, 0)
  | some stop =>
      let isTarget := fun i line =>
        decide (start < i ∧ i < stop) &&
          rule.closesAnnotated line
      (lines.mapIdx fun i line =>
          if isTarget i line then
            Text.leading line ++ rule.wrapClose
          else
            line,
        (lines.zipIdx.filter fun (line, i) =>
          isTarget i line).length)

end Repair

------------------------------------------------------------
-- Repair
------------------------------------------------------------

namespace Method

/- Repair the method declared on the line of `method`. -/
def repair
    (rule : Rule)
    (method : Method)
    (lines : Lines) : Lines × Repair.Report :=
  let (settled, report) :=
    Repair.settle rule method.start lines
  let (normal, count) :=
    Repair.normalize rule method.start settled
  (normal, { report with normalized := count })

end Method

end NotifyScope
