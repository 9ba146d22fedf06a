import NotifyScope.Rewrite.Apply
import NotifyScope.Source

/-
  This file rewrites whole texts: every rule in turn, with
  all of it undone if one rule meets a conflict.

  Key definitions include:
    * `Outcome`
    * `Transform`
    * `Transform.run`
    * `Document`
    * `Document.rewrite`
-/

namespace NotifyScope

------------------------------------------------------------
-- Outcomes
------------------------------------------------------------

/- What became of a file. -/
inductive Outcome where
  /- Its text was changed. -/
  | fixed
  /- Its methods are as they should be. -/
  | unchanged
  /- There is no such file. -/
  | skippedMissing
  /- It declares none of the methods. -/
  | skippedNoMatch
  /- A method never closes; the others were rewritten. -/
  | failedUnbalancedBlock
  /- A method declares another one; nothing was changed. -/
  | failedNestedSignature
deriving DecidableEq, Repr

namespace Outcome

/- Whether the file could not be rewritten as a whole. -/
def isFailure : Outcome → Bool
  | failedUnbalancedBlock => true
  | failedNestedSignature => true
  | _ => false

/- The words for an outcome. -/
def label : Outcome → String
  | fixed => "fixed"
  | unchanged => "already canonical"
  | skippedMissing => "file not found"
  | skippedNoMatch => "no matching declaration"
  | failedUnbalancedBlock => "unbalanced method body"
  | failedNestedSignature => "nested declaration"

/- The name of an outcome in a report for programs. -/
def key : Outcome → String
  | fixed => "fixed"
  | unchanged => "unchanged"
  | skippedMissing => "skipped_missing"
  | skippedNoMatch => "skipped_no_match"
  | failedUnbalancedBlock => "failed_unbalanced_block"
  | failedNestedSignature => "failed_nested_signature"

end Outcome

------------------------------------------------------------
-- Rules in Turn
------------------------------------------------------------

/- What the rules made of a list of lines. -/
structure Transform where
  lines : Lines
  counts : Counts
  unbalanced : List Nat
  conflict : Option LocateError
  trace : List Event
deriving DecidableEq, Repr

namespace Transform

/-
  Apply rules in turn.  At a conflict the lines become
  `before` again, while the counts of the rules before it
  stay.
-/
def applyRules
    (layout : Layout)
    (before : Lines) :
    List Rule → Transform → Transform
  | [], state => state
  | rule :: rest, state =>
      let header := .rule rule.oldName rule.newName
      let survey := rule.survey layout state.lines
      match survey.conflict with
      | some conflict =>
          { state with
            lines := before
            conflict := some conflict
            trace :=
              state.trace ++ header ::
                survey.trace ++ [.conflict conflict] }
      | none =>
          let work := rule.rewrite layout survey state.lines
          applyRules layout before rest
            { lines := work.lines
              counts := state.counts + work.counts
              unbalanced :=
                state.unbalanced ++ survey.unbalanced
              conflict := none
              trace := state.trace ++ header :: work.trace }

/- Apply rules to lines. -/
def run
    (rules : List Rule)
    (layout : Layout)
    (lines : Lines) : Transform :=
  applyRules layout lines rules
    { lines
      counts := { totalLines := lines.length }
      unbalanced := []
      conflict := none
      trace := [] }

/- What to say about a failure, with lines from one on. -/
def detail
    (transform : Transform) : Option String :=
  match transform.conflict, transform.unbalanced with
  | some conflict, _ => some conflict.message
  | none, [] => none
  | none, lines =>
      some
        ("braces never balance for the declaration(s) on " ++
          "line(s) " ++
          ", ".intercalate
            (lines.map fun line => toString (line + 1)))

/- The outcome, if `changed` tells whether the text did. -/
def outcome
    (changed : Bool)
    (transform : Transform) : Outcome :=
  if transform.conflict.isSome then
    .failedNestedSignature
  else if !transform.unbalanced.isEmpty then
    .failedUnbalancedBlock
  else if transform.counts.methodsFound = 0 then
    .skippedNoMatch
  else if changed then
    .fixed
  else
    .unchanged

end Transform

------------------------------------------------------------
-- Documents
------------------------------------------------------------

/- A named text before and after a rewrite. -/
structure Document where
  name : String
  before : Text
  rewritten : Text
  outcome : Outcome
  detail : Option String
  counts : Counts
  trace : List Event
deriving DecidableEq, Repr

namespace Document

/- The document for a file that does not exist. -/
def missing
    (name : String) : Document :=
  { name
    before := []
    rewritten := []
    outcome := .skippedMissing
    detail := none
    counts := {}
    trace := [] }

/- Whether the text differs from what it was. -/
def wouldChange
    (document : Document) : Bool :=
  decide (document.before ≠ document.rewritten)

/-
  Rewrite a text.  One whose lines stay the same keeps its
  characters, also where its line endings are mixed.
-/
def rewrite
    (rules : List Rule)
    (layout : Layout)
    (name : String)
    (text : Text) : Document :=
  let source := Source.ofText text
  let transform := Transform.run rules layout source.lines
  let rewritten :=
    if transform.lines = source.lines then
      text
    else
      Source.render { source with lines := transform.lines }
  { name
    before := text
    rewritten
    outcome := transform.outcome (decide (rewritten ≠ text))
    detail := transform.detail
    counts := transform.counts
    trace :=
      .text name source.lines.length :: transform.trace }

end Document

end NotifyScope
