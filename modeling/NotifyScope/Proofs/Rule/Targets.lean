import NotifyScope.Proofs.Method.Location

/-
  The lines that a rule targets: declarations that open one
  block more than they close.  The search of a rule finds
  something exactly if there is such a line, and every line
  that it tells of is one.

  Key definitions include:
    * `Rule.Targets`
    * `LocateError.lines`
    * `Method.Encloses`

  Main declarations:
    * `Rule.locate_eq_nil_iff`
    * `Rule.survey_finds_nothing_iff`
    * `Method.encloses_of_nested_mem_locate`
    * `Rule.targets_of_mem_unbalanced`
    * `Rule.targets_of_mem_conflict`
-/

------------------------------------------------------------
-- Targets
------------------------------------------------------------

namespace NotifyScope

namespace Rule

/-
  Whether a line declares a method of the rule, and opens one
  block more than it closes.
-/
def Targets
    (rule : Rule)
    (line : Line) : Prop :=
  (rule.declaredName? line).isSome = true ∧
    Line.braceBalance line = 1

variable {rule : Rule}

/- The targets are the lines that the search stops at. -/
theorem targets_iff_opener?
    {line : Line} :
    rule.Targets line ↔
      (Method.opener? rule line).isSome = true := by
  unfold Targets Method.opener?
  cases rule.declaredName? line with
  | none => simp
  | some name =>
      by_cases hBalance : Line.braceBalance line = 1 <;>
        simp [hBalance]

/- The empty line is no target. -/
theorem not_targets_nil :
    ¬rule.Targets [] := by
  rintro ⟨_, hBalance⟩
  exact absurd hBalance (by decide)

/- A target that has a number is one of the lines. -/
theorem Targets.getElem?_eq
    {lines : Lines}
    {i : Nat}
    (hTarget : rule.Targets (Lines.get lines i)) :
    lines[i]? = some (Lines.get lines i) := by
  by_cases hLess : i < lines.length
  · rw [Lines.get_eq_getElem hLess,
      List.getElem?_eq_getElem hLess]
  · rw [Lines.get_of_length_le (Nat.le_of_not_lt hLess)]
      at hTarget
    exact absurd hTarget not_targets_nil

------------------------------------------------------------
-- Findings
------------------------------------------------------------

section Findings

open Method

/- The search tells of targets only. -/
theorem targets_of_mem_locate
    {fallback : Text}
    {lines : Lines}
    {found : Except LocateError Method}
    (hFound : found ∈ locate rule fallback lines) :
    rule.Targets (Lines.get lines (foundLine found)) :=
  targets_iff_opener?.mpr (of_mem_scan [] lines hFound).2.1

/- The search tells of every target. -/
theorem Targets.exists_mem_locate
    (fallback : Text)
    {lines : Lines}
    {i : Nat}
    (hTarget : rule.Targets (Lines.get lines i)) :
    ∃ found ∈ locate rule fallback lines,
      foundLine found = i :=
  Method.exists_mem_locate fallback
    (targets_iff_opener?.mp hTarget)

/- The search finds nothing where there is no target. -/
theorem locate_eq_nil_iff
    (rule : Rule)
    (fallback : Text)
    (lines : Lines) :
    locate rule fallback lines = [] ↔
      ∀ line ∈ lines, ¬rule.Targets line := by
  constructor
  · intro hNil line hLine hTarget
    rcases List.mem_iff_getElem.mp hLine with ⟨i, hi, hEq⟩
    rw [← hEq, ← Lines.get_eq_getElem hi] at hTarget
    rcases hTarget.exists_mem_locate fallback with
      ⟨found, hFound, _⟩
    rw [hNil] at hFound
    cases hFound
  · intro hNone
    rw [List.eq_nil_iff_forall_not_mem]
    intro found hFound
    have hTarget := targets_of_mem_locate hFound
    exact hNone _
      (List.mem_of_getElem? hTarget.getElem?_eq) hTarget

end Findings

end Rule

/- A survey is empty if nothing was found. -/
theorem Survey.finds_nothing_iff
    (found : List (Except LocateError Method)) :
    ((ofFound found).conflict = none ∧
        (ofFound found).unbalanced = [] ∧
          (ofFound found).methods = []) ↔
      found = [] := by
  cases found with
  | nil => simp [ofFound]
  | cons item found =>
      cases item with
      | ok method => simp [ofFound]
      | error failure =>
          cases failure <;> simp [ofFound]

namespace Rule

variable {rule : Rule} {layout : Layout} {lines : Lines}

theorem survey_finds_nothing_iff :
    ((rule.survey layout lines).conflict = none ∧
        (rule.survey layout lines).unbalanced = [] ∧
          (rule.survey layout lines).methods = []) ↔
      ∀ line ∈ lines, ¬rule.Targets line := by
  rw [← locate_eq_nil_iff rule layout.unit lines]
  exact Survey.finds_nothing_iff _

------------------------------------------------------------
-- Lines That Are Told Of
------------------------------------------------------------

/- A declaration that never closes is a target. -/
theorem targets_of_mem_unbalanced
    {i : Nat}
    (hMem : i ∈ (rule.survey layout lines).unbalanced) :
    rule.Targets (Lines.get lines i) :=
  targets_iff_opener?.mpr (opener_of_mem_unbalanced hMem).1

end Rule

/- The lines that a failure is about. -/
def LocateError.lines : LocateError → List Nat
  | unbalanced start => [start]
  | nested line enclosing => [line, enclosing]

namespace Method

/- A line of the body of a method, below its declaration. -/
def Encloses
    (method : Method)
    (i : Nat) : Prop :=
  method.start < i ∧ i ≤ method.stop

variable {rule : Rule} {fallback : Text}

theorem enclosing?_eq_some_iff
    {i start : Nat}
    {body : Option (Nat × Nat)} :
    enclosing? i body = some start ↔
      ∃ stop, body = some (start, stop) ∧
        start ≤ i ∧ i ≤ stop := by
  unfold enclosing?
  split
  · simp
  · rename_i first stop
    constructor
    · intro hInside
      rw [Option.ite_none_right_eq_some] at hInside
      rcases hInside with ⟨hWithin, hFirst⟩
      cases hFirst
      exact ⟨stop, rfl, hWithin⟩
    · rintro ⟨_, hEq, hWithin⟩
      cases hEq
      exact if_pos hWithin

/-
  A conflict is told about a line of the body that the search
  remembers, or of one that it found before.
-/
theorem encloses_of_nested_mem_scan
    {i line enclosing : Nat}
    {body : Option (Nat × Nat)}
    {rest : Lines}
    (hBody : ∀ start stop, body = some (start, stop) →
      start < i)
    (hNested :
      .error (.nested line enclosing) ∈
        scan rule fallback i body rest) :
    (∃ stop, body = some (enclosing, stop) ∧
        enclosing < line ∧ line ≤ stop) ∨
      ∃ method,
        .ok method ∈ scan rule fallback i body rest ∧
          method.Encloses line ∧
          method.start = enclosing := by
  induction rest generalizing i body with
  | nil => cases hNested
  | cons next rest ih =>
      have hBodyNext : ∀ start stop,
          body = some (start, stop) → start < i + 1 :=
        fun start stop hEq =>
          Nat.lt_succ_of_lt (hBody start stop hEq)
      rcases scan_cons_cases rule fallback i body next rest
          with
        ⟨_, hScan⟩ | ⟨name, _, hCases⟩
      · rw [hScan] at hNested ⊢
        exact ih hBodyNext hNested
      · rcases hCases with
          ⟨start, hInside, hScan⟩ | ⟨_, _, hScan⟩ |
            ⟨_, k, _, hScan⟩
        all_goals
          rw [hScan, List.mem_cons] at hNested
          simp only [hScan, List.mem_cons]
        · rcases hNested with hHere | hLater
          · cases hHere
            rcases enclosing?_eq_some_iff.mp hInside with
              ⟨stop, hEq, _, hStop⟩
            exact .inl ⟨stop, hEq, hBody _ _ hEq, hStop⟩
          · exact (ih hBodyNext hLater).imp_right
              fun ⟨method, hMem, hRest⟩ =>
                ⟨method, .inr hMem, hRest⟩
        · rcases hNested with hHere | hLater
          · cases hHere
          · exact (ih hBodyNext hLater).imp_right
              fun ⟨method, hMem, hRest⟩ =>
                ⟨method, .inr hMem, hRest⟩
        · rcases hNested with hHere | hLater
          · cases hHere
          · have hInner : ∀ start stop,
                some (i, i + 1 + k) = some (start, stop) →
                  start < i + 1 := by
              rintro _ _ ⟨⟩
              exact Nat.lt_succ_self i
            right
            rcases ih hInner hLater with
              ⟨_, hEq, hEncloses⟩ | ⟨method, hMem, hRest⟩
            · cases hEq
              exact ⟨_, .inl rfl, hEncloses, rfl⟩
            · exact ⟨method, .inr hMem, hRest⟩

/- A conflict names a method that the search finds. -/
theorem encloses_of_nested_mem_locate
    {lines : Lines}
    {line enclosing : Nat}
    (hNested :
      .error (.nested line enclosing) ∈
        locate rule fallback lines) :
    ∃ method, .ok method ∈ locate rule fallback lines ∧
      method.Encloses line ∧ method.start = enclosing := by
  rcases encloses_of_nested_mem_scan (by simp) hNested with
    ⟨_, hBody, _⟩ | hMethod
  · cases hBody
  · exact hMethod

end Method

/- The conflict of a survey is a finding. -/
theorem Survey.mem_of_conflict_eq_some
    {found : List (Except LocateError Method)}
    {conflict : LocateError}
    (hConflict : (ofFound found).conflict = some conflict) :
    .error conflict ∈ found ∧
      ∃ line enclosing, conflict = .nested line enclosing := by
  induction found with
  | nil => cases hConflict
  | cons item found ih =>
      cases item with
      | ok method =>
          rcases ih hConflict with ⟨hMem, hNested⟩
          exact ⟨List.mem_cons_of_mem _ hMem, hNested⟩
      | error failure =>
          cases failure with
          | unbalanced start =>
              rcases ih hConflict with ⟨hMem, hNested⟩
              exact ⟨List.mem_cons_of_mem _ hMem, hNested⟩
          | nested line enclosing =>
              cases hConflict
              exact ⟨List.mem_cons_self, _, _, rfl⟩

namespace Rule

variable {rule : Rule} {layout : Layout} {lines : Lines}

/- Both declarations of a conflict are targets. -/
theorem targets_of_mem_conflict
    {conflict : LocateError}
    (hConflict :
      (rule.survey layout lines).conflict = some conflict)
    {i : Nat}
    (hMem : i ∈ conflict.lines) :
    rule.Targets (Lines.get lines i) := by
  rcases Survey.mem_of_conflict_eq_some hConflict with
    ⟨hFound, line, enclosing, rfl⟩
  rcases List.mem_cons.mp hMem with rfl | hEnclosing
  · exact targets_of_mem_locate hFound
  · rw [List.mem_singleton.mp hEnclosing]
    rcases Method.encloses_of_nested_mem_locate hFound with
      ⟨method, hMethod, _, rfl⟩
    exact targets_of_mem_locate hMethod

end Rule

end NotifyScope
