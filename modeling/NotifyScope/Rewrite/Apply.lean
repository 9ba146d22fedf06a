import NotifyScope.Rewrite.Counts
import NotifyScope.Rewrite.Trace

/-
  This file applies one rule to the lines of a text.  The
  methods are found first and then rewritten from the last to
  the first, so that an edit never moves a method that is
  still to be rewritten.

  Key definitions include:
    * `Layout`
    * `Survey`
    * `Rule.survey`
    * `Work`
    * `Method.rewrite`
    * `Rule.apply`
-/

namespace NotifyScope

------------------------------------------------------------
-- Layout
------------------------------------------------------------

/- How the lines of a new wrapper are laid out. -/
structure Layout where
  /- A level of indentation, where a body shows none. -/
  unit : Text
  /- Whether a wrapped body moves one level in. -/
  reindent : Bool
deriving DecidableEq, Repr

------------------------------------------------------------
-- Surveys
------------------------------------------------------------

/-
  What a rule finds in a list of lines, up to the first
  declaration inside the body of another method.
-/
structure Survey where
  methods : List Method
  unbalanced : List Nat
  conflict : Option LocateError
deriving DecidableEq, Repr

namespace Survey

/- Sort the findings of a search. -/
def ofFound :
    List (Except LocateError Method) → Survey
  | [] =>
      { methods := [], unbalanced := [], conflict := none }
  | .ok method :: rest =>
      let survey := ofFound rest
      { survey with methods := method :: survey.methods }
  | .error (.unbalanced start) :: rest =>
      let survey := ofFound rest
      { survey with
        unbalanced := start :: survey.unbalanced }
  | .error (.nested line enclosing) :: _ =>
      { methods := []
        unbalanced := []
        conflict := some (.nested line enclosing) }

/- Whether no declaration was found. -/
def isEmpty
    (survey : Survey) : Bool :=
  survey.methods.isEmpty && survey.unbalanced.isEmpty

/- What is told about the declarations without an end. -/
def trace
    (survey : Survey) : List Event :=
  survey.unbalanced.map Event.skipped

end Survey

namespace Rule

/- Search the lines for the declarations of a rule. -/
def survey
    (rule : Rule)
    (layout : Layout)
    (lines : Lines) : Survey :=
  Survey.ofFound (Method.locate rule layout.unit lines)

end Rule

------------------------------------------------------------
-- Methods
------------------------------------------------------------

/- Lines that are being rewritten, and what was done. -/
structure Work where
  lines : Lines
  counts : Counts := {}
  trace : List Event := []
deriving DecidableEq, Repr

namespace Method

/- Give a body the one wrapper that it should have. -/
def rewriteBody
    (rule : Rule)
    (reindent : Bool)
    (method : Method)
    (lines : Lines) : Work :=
  let state := method.bodyState rule lines
  match state with
  | .unwrapped =>
      let (next, edit) := method.wrap rule reindent lines
      { lines := next
        counts := { methodsWrapped := 1 }
        trace := [.method method state, .wrapped edit] }
  | .canonical =>
      { lines
        counts := { methodsCanonical := 1 }
        trace := [.method method state] }
  | .legacy | .doubled =>
      let (next, report) := method.repair rule lines
      { lines := next
        counts := .ofRepair report
        trace := [.method method state, .repaired report] }

/- Rewrite the body and then the signature of a method. -/
def rewrite
    (rule : Rule)
    (reindent : Bool)
    (method : Method)
    (lines : Lines) : Work :=
  let body := method.rewriteBody rule reindent lines
  let (next, edit) := method.renameDeclaration rule body.lines
  { lines := next
    counts := body.counts + .ofDeclaration edit
    trace := body.trace }

/- Rewrite methods from the last to the first. -/
def rewriteAll
    (rule : Rule)
    (reindent : Bool)
    (methods : List Method)
    (lines : Lines) : Work :=
  methods.foldr
    (fun method work =>
      let step := method.rewrite rule reindent work.lines
      { lines := step.lines
        counts := work.counts + step.counts
        trace := work.trace ++ step.trace })
    { lines }

end Method

------------------------------------------------------------
-- Rules
------------------------------------------------------------

namespace Rule

/-
  Rewrite the methods that a survey found and then rename
  every reference that is left, also if no method closes.
  Without a declaration nothing is done.
-/
def rewrite
    (rule : Rule)
    (layout : Layout)
    (survey : Survey)
    (lines : Lines) : Work :=
  if survey.isEmpty then
    { lines }
  else
    let work :=
      Method.rewriteAll rule layout.reindent survey.methods
        lines
    let (renamed, count) := Lines.renameAll rule work.lines
    { lines := renamed
      counts :=
        { methodsFound := survey.methods.length
          methodsSkipped := survey.unbalanced.length
          callSitesRenamed := count } + work.counts
      trace := survey.trace ++ work.trace }

/-
  Apply a rule.  A declaration inside the body of another
  method stops it.  Beside the work come the numbers of the
  lines with declarations that never close.
-/
def apply
    (rule : Rule)
    (layout : Layout)
    (lines : Lines) :
    Except LocateError (Work × List Nat) :=
  let survey := rule.survey layout lines
  match survey.conflict with
  | some conflict => .error conflict
  | none =>
      .ok
        (rule.rewrite layout survey lines,
          survey.unbalanced)

end Rule

end NotifyScope
