import NotifyScope.Identifier
import NotifyScope.Line
import NotifyScope.Rule.Template

/-
  This file defines the rules of a rewrite: how they are
  written down, what makes one acceptable, and which lines
  they recognise.

  Key definitions include:
    * `RuleSpec`
    * `RuleSpec.builtIn`
    * `Rule`
    * `RuleError`
    * `RuleSpec.check`
    * `Rule.declaredName?`
    * `Rule.closesEither`
-/

namespace NotifyScope

------------------------------------------------------------
-- Specifications
------------------------------------------------------------

/-
  A rule as it is written in a configuration or put together
  from options.  What is left out has a standard value.
-/
structure RuleSpec where
  oldName : Text
  newName : Text
  declaration : Option Text := none
  marker : Option Text := none
  wrapOpen : Option Text := none
  wrapClose : Option Text := none
  legacyClose : Option Text := none
deriving DecidableEq, Repr

namespace RuleSpec

/- The declaration of a method without parameters. -/
def standardDeclaration : Text :=
  "void \x7bname\x7d()".toList

/- The marker of a method that overrides another. -/
def standardMarker : Text :=
  "@override".toList

/- The line that opens the scope of a state change. -/
def standardWrapOpen : Text :=
  "setState(() \x7b".toList

/- The line that closes the scope of a state change. -/
def standardWrapClose : Text :=
  "\x7d);".toList

/- The closing line with the note of what it closes. -/
def standardLegacyClose : Text :=
  "\x7d); // setState".toList

/- The rule that applies when no other one is given. -/
def builtIn : RuleSpec :=
  { oldName := "_generateQuestion".toList
    newName := "generateNewQuestion".toList }

end RuleSpec

------------------------------------------------------------
-- Rules
------------------------------------------------------------

/-
  A rule that was found acceptable.  Its texts are trimmed,
  its names are identifiers, its template has one place for
  the name, and its wrapper lines open and close one block.
-/
structure Rule where
  oldName : Text
  newName : Text
  declaration : Text
  template : Template
  marker : Option Line
  wrapOpen : Line
  wrapClose : Line
  legacyClose : Line
  oldName_isName : Identifier.isName oldName = true
  newName_isName : Identifier.isName newName = true
  declaration_trim : Text.trim declaration = declaration
  declaration_ofText? :
    Template.ofText? declaration = some template
  marker_trim :
    ∀ line ∈ marker, line ≠ [] ∧ Text.trim line = line
  wrapOpen_trim : Text.trim wrapOpen = wrapOpen
  wrapClose_trim : Text.trim wrapClose = wrapClose
  legacyClose_trim : Text.trim legacyClose = legacyClose
  wrapOpen_balance : Line.braceBalance wrapOpen = 1
  wrapClose_balance : Line.braceBalance wrapClose = -1
  legacyClose_balance : Line.braceBalance legacyClose = -1
  legacyClose_ne : legacyClose ≠ wrapClose
deriving Repr

/- Why a rule is refused. -/
inductive RuleError where
  /- A method name that is no identifier. -/
  | notName (name : Text)
  /- A declaration without exactly one place for the name. -/
  | notTemplate (declaration : Text)
  /- An opening line that does not open one block. -/
  | notOpening (line : Line)
  /- A closing line that does not close one block. -/
  | notClosing (line : Line)
  /- An annotated closing line that is none, or no other. -/
  | notLegacy (line : Line)
deriving DecidableEq, Repr

namespace RuleError

/- The text that tells the user why a rule is refused. -/
def message : RuleError → String
  | notName name =>
      "Method name '" ++ Text.str name ++
        "' is not a valid identifier"
  | notTemplate declaration =>
      "Declaration template '" ++ Text.str declaration ++
        "' must contain \x7bname\x7d exactly once"
  | notOpening line =>
      "--wrap-open '" ++ Text.str line ++
        "' must open exactly one brace block"
  | notClosing line =>
      "--wrap-close '" ++ Text.str line ++
        "' must close exactly one brace block"
  | notLegacy line =>
      "--legacy-close '" ++ Text.str line ++
        "' must close one brace block and differ from " ++
        "--wrap-close"

end RuleError

------------------------------------------------------------
-- Acceptance
------------------------------------------------------------

namespace RuleSpec

/- The trimmed marker, or none if nothing remains of it. -/
def trimmedMarker
    (spec : RuleSpec) : Option Line :=
  let line :=
    Text.trim (spec.marker.getD standardMarker)
  if line = [] then none else some line

/- A marker that is left is trimmed and not empty. -/
theorem trimmedMarker_trim
    (spec : RuleSpec) :
    ∀ line ∈ spec.trimmedMarker,
      line ≠ [] ∧ Text.trim line = line := by
  intro line h
  simp only [trimmedMarker] at h
  split at h
  · simp at h
  · rename_i hne
    simp only [Option.mem_def, Option.some.injEq] at h
    subst h
    exact ⟨hne, Text.trim_trim _⟩

/-
  Accept a specification as a rule, or tell the first reason
  against it: the old name, the new name, the declaration,
  and then the wrapper lines are looked at in this order.
-/
def check
    (spec : RuleSpec) : Except RuleError Rule :=
  let oldName := Text.trim spec.oldName
  let newName := Text.trim spec.newName
  let declaration := Text.trim
    (spec.declaration.getD standardDeclaration)
  let wrapOpen := Text.trim
    (spec.wrapOpen.getD standardWrapOpen)
  let wrapClose := Text.trim
    (spec.wrapClose.getD standardWrapClose)
  let legacyClose := Text.trim
    (spec.legacyClose.getD standardLegacyClose)
  if hOld : Identifier.isName oldName = true then
    if hNew : Identifier.isName newName = true then
      match hTemplate : Template.ofText? declaration with
      | none => .error (.notTemplate declaration)
      | some template =>
          if hOpen : Line.braceBalance wrapOpen = 1 then
            if hClose :
                Line.braceBalance wrapClose = -1 then
              if hLegacy :
                  Line.braceBalance legacyClose = -1 ∧
                    legacyClose ≠ wrapClose then
                .ok
                  { oldName, newName, declaration
                    template
                    marker := spec.trimmedMarker
                    wrapOpen, wrapClose, legacyClose
                    oldName_isName := hOld
                    newName_isName := hNew
                    declaration_trim := Text.trim_trim _
                    declaration_ofText? := hTemplate
                    marker_trim := spec.trimmedMarker_trim
                    wrapOpen_trim := Text.trim_trim _
                    wrapClose_trim := Text.trim_trim _
                    legacyClose_trim := Text.trim_trim _
                    wrapOpen_balance := hOpen
                    wrapClose_balance := hClose
                    legacyClose_balance := hLegacy.1
                    legacyClose_ne := hLegacy.2 }
              else
                .error (.notLegacy legacyClose)
            else
              .error (.notClosing wrapClose)
          else
            .error (.notOpening wrapOpen)
    else
      .error (.notName newName)
  else
    .error (.notName oldName)

end RuleSpec

------------------------------------------------------------
-- Recognised Lines
------------------------------------------------------------

namespace Rule

/-
  The method name that a line declares: the old one or, if
  that does not fit, the new one.
-/
def declaredName?
    (rule : Rule)
    (line : Line) : Option Text :=
  rule.template.declaredName?
    [rule.oldName, rule.newName] line

/- Whether a line opens the scope. -/
def opensWrapper
    (rule : Rule)
    (line : Line) : Bool :=
  Text.trim line == rule.wrapOpen

/- Whether a line closes the scope as it should. -/
def closesWrapper
    (rule : Rule)
    (line : Line) : Bool :=
  Text.trim line == rule.wrapClose

/- Whether a line closes the scope with an annotation. -/
def closesAnnotated
    (rule : Rule)
    (line : Line) : Bool :=
  Text.trim line == rule.legacyClose

/- Whether a line closes the scope in either form. -/
def closesEither
    (rule : Rule)
    (line : Line) : Bool :=
  rule.closesWrapper line || rule.closesAnnotated line

end Rule

end NotifyScope
