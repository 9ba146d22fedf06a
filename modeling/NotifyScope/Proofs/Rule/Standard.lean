import NotifyScope.Rule.Basic

/-
  The rule that applies when no other one is given, as a
  value: what its specification is accepted as.

  Key definitions include:
    * `Rule.standard`
-/

namespace NotifyScope

namespace Rule

/- The rule of the built-in specification. -/
def standard : Rule where
  oldName := "_generateQuestion".toList
  newName := "generateNewQuestion".toList
  declaration := RuleSpec.standardDeclaration
  template :=
    { before := "void ".toList
      after := "()".toList }
  marker := some RuleSpec.standardMarker
  wrapOpen := RuleSpec.standardWrapOpen
  wrapClose := RuleSpec.standardWrapClose
  legacyClose := RuleSpec.standardLegacyClose
  oldName_isName := by decide
  newName_isName := by decide
  declaration_trim := by decide
  declaration_ofText? := by decide
  marker_trim := by decide
  wrapOpen_trim := by decide
  wrapClose_trim := by decide
  legacyClose_trim := by decide
  wrapOpen_balance := by decide
  wrapClose_balance := by decide
  legacyClose_balance := by decide
  legacyClose_ne := by decide

/- The built-in specification is accepted. -/
theorem check_builtIn :
    RuleSpec.builtIn.check = .ok standard := by
  rfl

end Rule

end NotifyScope
