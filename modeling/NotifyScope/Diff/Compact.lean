import NotifyScope.Diff.Search

/-
  This file moves the operations of a script past lines that
  both texts have, so that operations of one kind come
  together: up as far as possible, and then down.

  Key definitions include:
    * `Diff.Cursor`
    * `Diff.Cursor.up`
    * `Diff.Cursor.down`
    * `Diff.compact`
-/

namespace NotifyScope

namespace Diff

------------------------------------------------------------
-- Cursors
------------------------------------------------------------

/-
  An operation with the operations before it, the nearest one
  first, and the operations after it.
-/
structure Cursor where
  before : List Operation
  operation : Operation
  after : List Operation
deriving DecidableEq, Repr

/- How many steps a list of operations can take. -/
def weight
    (operations : List Operation) : Nat :=
  operations.foldr
    (fun operation total => operation.length + 1 + total) 0

/- An operation adds to the weight. -/
theorem weight_cons
    (operation : Operation)
    (rest : List Operation) :
    weight (operation :: rest) =
      operation.length + 1 + weight rest := rfl

namespace Cursor

------------------------------------------------------------
-- Upwards
------------------------------------------------------------

/- Add the last `count` lines of `above` to what is below. -/
def lowerLines
    (above operation : Operation)
    (count : Nat) : List Operation → List Operation
  | next :: rest =>
      if next.kind = .equal then
        { next with
          old := next.old - count
          new := next.new - count
          length := next.length + count } :: rest
      else
        { kind := .equal
          old := above.old + above.length - count
          new := operation.new + operation.newLength - count
          length := count } :: next :: rest
  | [] =>
      [{ kind := .equal
         old := above.old + above.length - count
         new := operation.new + operation.newLength - count
         length := count }]

/-
  Move an operation up.  An insertion moves past lines that
  it ends with, an insertion and a deletion change places,
  and two operations of one kind become one.
-/
def up
    (old new : Array Text)
    (before : List Operation)
    (operation : Operation)
    (after : List Operation) : Cursor :=
  match before with
  | [] => { before := [], operation, after }
  | above :: rest =>
      match operation.kind, above.kind with
      | .insert, .equal =>
          let count := suffixLength old new
            (min above.length operation.length)
            (above.old + above.length)
            (operation.new + operation.length)
          if 0 < count then
            let moved :=
              { operation with
                old := operation.old - count
                new := operation.new - count }
            let below :=
              lowerLines above operation count after
            if above.length = count then
              up old new rest moved below
            else
              up old new
                ({ above with
                  length := above.length - count } :: rest)
                moved below
          else if above.length = 0 then
            up old new rest operation after
          else
            { before, operation, after }
      | .delete, .equal =>
          if above.length = 0 then
            up old new rest operation after
          else
            { before, operation, after }
      | .insert, .delete | .delete, .insert =>
          up old new rest operation (above :: after)
      | .insert, .insert | .delete, .delete =>
          up old new rest
            { above with
              length := above.length + operation.length }
            after
      | .equal, _ => { before, operation, after }
termination_by weight before
decreasing_by
  · simp only [weight_cons]
    omega
  · simp only [weight_cons]
    have := suffixLength_le old new
      (min above.length operation.length)
      (above.old + above.length)
      (operation.new + operation.length)
    omega
  all_goals
    simp only [weight_cons]
    omega

------------------------------------------------------------
-- Downwards
------------------------------------------------------------

/- Add the first `count` lines of `below` to what is above. -/
def raiseLines
    (below operation : Operation)
    (count : Nat) : List Operation → List Operation
  | above :: rest =>
      if above.kind = .equal then
        { above with length := above.length + count } ::
          rest
      else
        { kind := .equal
          old := below.old
          new := operation.new
          length := count } :: above :: rest
  | [] =>
      [{ kind := .equal
         old := below.old
         new := operation.new
         length := count }]

/- Move an operation down, with the same rules. -/
def down
    (old new : Array Text)
    (before : List Operation)
    (operation : Operation)
    (after : List Operation) : Cursor :=
  match after with
  | [] => { before, operation, after := [] }
  | below :: rest =>
      match operation.kind, below.kind with
      | .insert, .equal =>
          let count := prefixLength old new
            (min below.length operation.length)
            below.old operation.new
          if 0 < count then
            let moved :=
              { operation with
                old := operation.old + count
                new := operation.new + count }
            let above :=
              raiseLines below operation count before
            if below.length = count then
              down old new above moved rest
            else
              down old new above moved
                ({ below with
                  old := below.old + count
                  new := below.new + count
                  length := below.length - count } :: rest)
          else if below.length = 0 then
            down old new before operation rest
          else
            { before, operation, after }
      | .delete, .equal =>
          if below.length = 0 then
            down old new before operation rest
          else
            { before, operation, after }
      | .insert, .delete | .delete, .insert =>
          down old new (below :: before) operation rest
      | .insert, .insert | .delete, .delete =>
          down old new before
            { operation with
              length := operation.length + below.length }
            rest
      | .equal, _ => { before, operation, after }
termination_by weight after
decreasing_by
  · simp only [weight_cons]
    omega
  · simp only [weight_cons]
    have := prefixLength_le old new
      (min below.length operation.length)
      below.old operation.new
    omega
  all_goals
    simp only [weight_cons]
    omega

end Cursor

------------------------------------------------------------
-- Passes
------------------------------------------------------------

/-
  Move every operation of one kind, from the first to the
  last.  The fuel bounds the number of operations visited.
-/
def pass
    (old new : Array Text)
    (kind : Kind) :
    (fuel : Nat) → (before after : List Operation) →
      List Operation
  | 0, before, after => before.reverse ++ after
  | _ + 1, before, [] => before.reverse
  | fuel + 1, before, operation :: after =>
      if operation.kind = kind then
        let high := Cursor.up old new before operation after
        let low := Cursor.down old new high.before
          high.operation high.after
        pass old new kind fuel
          (low.operation :: low.before) low.after
      else
        pass old new kind fuel (operation :: before) after

/- Move the deletions, and then the insertions. -/
def compact
    (old new : Array Text)
    (operations : List Operation) : List Operation :=
  let fuel := 4 * (old.size + new.size + 1)
  pass old new .insert fuel []
    (pass old new .delete fuel [] operations)

end Diff

end NotifyScope
