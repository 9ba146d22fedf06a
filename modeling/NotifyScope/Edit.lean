import NotifyScope.Rewrite.Apply

/-
  This file defines single edits of a list of lines, the
  pieces that a rewrite is made of.  An edit that names lines
  which do not exist is refused.

  Key definitions include:
    * `Edit`
    * `Edit.Answer`
    * `Edit.run`
-/

namespace NotifyScope

------------------------------------------------------------
-- Checked Edits
------------------------------------------------------------

namespace Lines

/- Put the marker above line `i`, if that can be a line. -/
def insertMarker?
    (lines : Lines)
    (i : Nat)
    (indent : Text)
    (marker : Line) : Option (Lines × Bool) :=
  if i ≤ lines.length then
    some (insertMarker lines i indent marker)
  else
    none

/-
  Shift lines back, if both levels can be read off and the
  lines between them, where any have to move, exist.
-/
def outdent?
    (lines : Lines)
    (outer inner stop : Nat) : Option Lines :=
  if outer < lines.length ∧ inner < lines.length then
    let outerLead := Text.leading (Lines.get lines outer)
    let innerLead := Text.leading (Lines.get lines inner)
    if outerLead.isPrefixOf innerLead &&
        decide (outerLead ≠ innerLead) then
      if inner < stop ∧ stop ≤ lines.length then
        some (outdent lines outer inner stop)
      else
        none
    else
      some lines
  else
    none

/- Insert a line before line `i`. -/
def insert?
    (lines : Lines)
    (i : Nat)
    (line : Line) : Option Lines :=
  if i ≤ lines.length then
    some (lines.insertIdx i line)
  else
    none

/- Remove line `i` and return it. -/
def remove?
    (lines : Lines)
    (i : Nat) : Option (Lines × Line) :=
  lines[i]?.map fun line => (lines.eraseIdx i, line)

end Lines

------------------------------------------------------------
-- Edits
------------------------------------------------------------

/-
  An edit.  One of a method names it by its place among the
  methods that are found at that time.
-/
inductive Edit where
  /- Classify the body of a method. -/
  | classify (method : Nat)
  /- Wrap the body of a method. -/
  | wrap (method : Nat) (reindent : Bool)
  /- Repair a method. -/
  | repair (method : Nat)
  /- Rewrite the signature of a method. -/
  | signature (method : Nat)
  /- Rename the references. -/
  | callSites
  /- Put a marker above a line. -/
  | marker (line : Nat) (indent : Text) (text : Line)
  /- Shift the lines of an inner block back. -/
  | outdent (outer inner stop : Nat)
  /- Apply the whole rule. -/
  | apply (reindent : Bool)
  /- Insert a line. -/
  | insert (line : Nat) (text : Line)
  /- Remove a line. -/
  | remove (line : Nat)
deriving DecidableEq, Repr

/- What an edit tells. -/
inductive Edit.Answer where
  | state (state : BodyState)
  | wrapped (edit : NewWrapper)
  | repaired (report : Repair.Report)
  | signature (edit : DeclarationChange)
  | count (count : Nat)
  | inserted (inserted : Bool)
  | done
  | removed (line : Line)
  | applied (counts : Counts) (unbalanced : List Nat)
  | conflict (error : LocateError)
  /- There is no such method. -/
  | noMethod
  /- There is no such line. -/
  | noLine
deriving DecidableEq, Repr

namespace Edit

/- The `k`th method that a rule finds. -/
def method?
    (rule : Rule)
    (unit : Text)
    (lines : Lines)
    (k : Nat) : Option Method :=
  ((Method.locate rule unit lines).filterMap
    Except.toOption)[k]?

/- Edit the `k`th method, if there is one. -/
def onMethod
    (rule : Rule)
    (unit : Text)
    (lines : Lines)
    (k : Nat)
    (edit : Method → Lines × Answer) : Lines × Answer :=
  match method? rule unit lines k with
  | none => (lines, .noMethod)
  | some method => edit method

/- Make an edit.  A refused one leaves the lines alone. -/
def run
    (rule : Rule)
    (unit : Text)
    (lines : Lines) : Edit → Lines × Answer
  | classify k =>
      onMethod rule unit lines k fun method =>
        (lines, .state (method.bodyState rule lines))
  | wrap k reindent =>
      onMethod rule unit lines k fun method =>
        let (next, edit) := method.wrap rule reindent lines
        (next, .wrapped edit)
  | repair k =>
      onMethod rule unit lines k fun method =>
        let (next, report) := method.repair rule lines
        (next, .repaired report)
  | signature k =>
      onMethod rule unit lines k fun method =>
        let (next, edit) :=
          method.renameDeclaration rule lines
        (next, .signature edit)
  | callSites =>
      let (next, count) := Lines.renameAll rule lines
      (next, .count count)
  | marker i indent text =>
      match Lines.insertMarker? lines i indent text with
      | none => (lines, .noLine)
      | some (next, inserted) => (next, .inserted inserted)
  | outdent outer inner stop =>
      match Lines.outdent? lines outer inner stop with
      | none => (lines, .noLine)
      | some next => (next, .done)
  | apply reindent =>
      match rule.apply { unit, reindent } lines with
      | .error conflict => (lines, .conflict conflict)
      | .ok (work, unbalanced) =>
          (work.lines, .applied work.counts unbalanced)
  | insert i text =>
      match Lines.insert? lines i text with
      | none => (lines, .noLine)
      | some next => (next, .done)
  | remove i =>
      match Lines.remove? lines i with
      | none => (lines, .noLine)
      | some (next, line) => (next, .removed line)

end Edit

end NotifyScope
