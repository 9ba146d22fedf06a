import NotifyScope.Proofs.Lines.Filled
import NotifyScope.Proofs.Lines.Window

/-
  Wrappers in wrappers, as lists of lines.  A core between
  lines that open wrappers and as many that close them is
  even if the core is, loses its outermost wrapper at both
  ends, and stays a nest whatever white space is in front of
  its lines.

  Key definitions include:
    * `Wrapper.IsWhole`
    * `Wrapper.Nest`

  Main declarations:
    * `Wrapper.Nest.runs`
    * `Wrapper.Nest.uncons`
    * `Wrapper.Nest.exists_of_trimLeft`
    * `Wrapper.IsWhole.of_trimLeft`
-/

------------------------------------------------------------
-- Lines of Wrappers
------------------------------------------------------------

namespace NotifyScope

namespace Rule

variable {rule : Rule}
variable {line : Line}

theorem allBlank_of_opensWrapper
    (hOpens : rule.opensWrapper line = true) :
    Text.allBlank line = false := by
  apply Line.not_allBlank_of_braceBalance_ne
  rw [braceBalance_of_opensWrapper hOpens]
  decide

theorem allBlank_of_closesEither
    (hCloses : rule.closesEither line = true) :
    Text.allBlank line = false := by
  apply Line.not_allBlank_of_braceBalance_ne
  rw [braceBalance_of_closesEither hCloses]
  decide

end Rule

namespace Lines

variable {rule : Rule}

/- Lines that open wrappers lead as many levels up. -/
theorem Runs.of_opensWrapper
    {lines : Lines}
    {level after : Int}
    (hLevel : 0 ≤ level)
    (hAfter : level + lines.length = after)
    (hOpens : ∀ line ∈ lines,
      rule.opensWrapper line = true) :
    Runs level lines after := by
  induction lines generalizing level with
  | nil =>
      rw [← hAfter]
      simpa using Runs.nil hLevel
  | cons line rest ih =>
      rw [List.length_cons] at hAfter
      refine .cons hLevel ?_
      rw [Rule.braceBalance_of_opensWrapper
        (hOpens line List.mem_cons_self)]
      exact ih (by omega) (by omega) fun other hOther =>
        hOpens other (List.mem_cons_of_mem line hOther)

/- Lines that close wrappers lead as many levels down. -/
theorem Runs.of_closesEither
    {lines : Lines}
    {level after : Int}
    (hAfter : 0 ≤ after)
    (hLevel : level = after + lines.length)
    (hCloses : ∀ line ∈ lines,
      rule.closesEither line = true) :
    Runs level lines after := by
  induction lines generalizing level with
  | nil =>
      rw [hLevel]
      simpa using Runs.nil hAfter
  | cons line rest ih =>
      rw [List.length_cons] at hLevel
      refine .cons (by omega) ?_
      rw [Rule.braceBalance_of_closesEither
        (hCloses line List.mem_cons_self)]
      exact ih (by omega) fun other hOther =>
        hCloses other (List.mem_cons_of_mem line hOther)

/- Even lines in a wrapper are even lines again. -/
theorem Runs.wrapper
    {opening closing : Line}
    {inner : Lines}
    (hOpens : rule.opensWrapper opening = true)
    (hInner : Runs 0 inner 0)
    (hCloses : rule.closesEither closing = true) :
    Runs 0 (opening :: (inner ++ [closing])) 0 := by
  have hRaised := hInner.shift (show (0 : Int) ≤ 1 by decide)
  have hClosing : Runs 1 [closing] 0 :=
    .of_closesEither (by decide) rfl (by simpa)
  refine .cons (by decide) ?_
  rw [Rule.braceBalance_of_opensWrapper hOpens]
  exact hRaised.append hClosing

end Lines

------------------------------------------------------------
-- Nests
------------------------------------------------------------

namespace Wrapper

open Lines

variable {rule : Rule}
variable {opens core closes : Lines}

/- Lines that are one wrapper, closed in either form. -/
def IsWhole
    (rule : Rule)
    (lines : Lines) : Prop :=
  ∃ opening inner closing,
    Lines.filled lines = opening :: (inner ++ [closing]) ∧
      rule.opensWrapper opening = true ∧
      Lines.Runs 0 inner 0 ∧
      rule.closesEither closing = true

/-
  Lines between lines that open wrappers and as many that
  close them.
-/
structure Nest
    (rule : Rule)
    (opens core closes : Lines) : Prop where
  opening : ∀ line ∈ opens, rule.opensWrapper line = true
  even : Lines.Runs 0 core 0
  closing : ∀ line ∈ closes, rule.closesEither line = true
  height : opens.length = closes.length

/- A nest is even as its core is. -/
theorem Nest.runs
    (hNest : Nest rule opens core closes) :
    Runs 0 (opens ++ (core ++ closes)) 0 := by
  have hOpens : Runs 0 opens opens.length :=
    .of_opensWrapper (by decide) (Int.zero_add _) hNest.opening
  have hCloses : Runs opens.length closes 0 := by
    refine .of_closesEither (by decide) ?_ hNest.closing
    rw [hNest.height, Int.zero_add]
  have hCore := hNest.even.shift
    (show (0 : Int) ≤ opens.length by omega)
  rw [Int.zero_add] at hCore
  exact hOpens.append (hCore.append hCloses)

/- A nest without its outermost wrapper. -/
theorem Nest.uncons
    {opening : Line}
    (hNest : Nest rule (opening :: opens) core closes) :
    ∃ inner closing, closes = inner ++ [closing] ∧
      rule.opensWrapper opening = true ∧
      rule.closesEither closing = true ∧
      Nest rule opens core inner := by
  rcases List.eq_nil_or_concat closes with
    rfl | ⟨inner, closing, rfl⟩
  · cases hNest.height
  · have hHeight := hNest.height
    rw [List.concat_eq_append, List.length_append,
      List.length_cons, List.length_singleton,
      Nat.add_right_cancel_iff] at hHeight
    have hClosing := hNest.closing
    rw [List.concat_eq_append] at hClosing ⊢
    exact ⟨inner, closing, rfl,
      hNest.opening opening List.mem_cons_self,
      hClosing closing (by simp),
      ⟨fun line hLine => hNest.opening line
          (List.mem_cons_of_mem opening hLine),
        hNest.even,
        fun line hLine => hClosing line
          (List.mem_append_left [closing] hLine),
        hHeight⟩⟩

/- Blank lines in the core do not matter. -/
theorem Nest.filled
    (hNest : Nest rule opens core closes) :
    Nest rule opens (filled core) closes :=
  ⟨hNest.opening, Runs.filled_iff.mpr hNest.even,
    hNest.closing, hNest.height⟩

/- Other white space in front of the lines makes a nest. -/
theorem Nest.exists_of_trimLeft
    {lines : Lines}
    (hNest : Nest rule opens core closes)
    (hTrim :
      lines.map Text.trimLeft =
        (opens ++ (core ++ closes)).map Text.trimLeft) :
    ∃ opens' core' closes',
      lines = opens' ++ (core' ++ closes') ∧
        Nest rule opens' core' closes' ∧
        opens'.length = opens.length ∧
        core'.map Text.trimLeft = core.map Text.trimLeft := by
  have hAlike : ∀ {left right : Lines},
      left.map Text.trimLeft = right.map Text.trimLeft →
        ∀ line ∈ left, ∃ other ∈ right,
          rule.Alike other line := by
    intro left right hMap line hLine
    have hMem := List.mem_map_of_mem (f := Text.trimLeft) hLine
    rw [hMap, List.mem_map] at hMem
    rcases hMem with ⟨other, hOther, hEq⟩
    exact ⟨other, hOther,
      .of_trim_eq (congrArg Text.trimRight hEq)⟩
  rw [List.map_append, List.map_append,
    List.map_eq_append_iff] at hTrim
  rcases hTrim with ⟨opens', inner, rfl, hOpens, hInner⟩
  rcases List.map_eq_append_iff.mp hInner with
    ⟨core', closes', rfl, hCore, hCloses⟩
  have hOpensLength : opens'.length = opens.length := by
    simpa using congrArg List.length hOpens
  have hClosesLength : closes'.length = closes.length := by
    simpa using congrArg List.length hCloses
  refine ⟨opens', core', closes', rfl, ⟨?_, ?_, ?_, ?_⟩,
    hOpensLength, hCore⟩
  · intro line hLine
    rcases hAlike hOpens line hLine with ⟨other, hOther, h⟩
    rw [← h.opens]
    exact hNest.opening other hOther
  · exact Runs.congr_trimLeft hCore.symm hNest.even
  · intro line hLine
    rcases hAlike hCloses line hLine with ⟨other, hOther, h⟩
    rw [← h.closes]
    exact hNest.closing other hOther
  · rw [hOpensLength, hClosesLength, hNest.height]

/- White space in front of lines makes no wrapper of them. -/
theorem IsWhole.of_trimLeft
    {left right : Lines}
    (hWhole : IsWhole rule left)
    (hTrim :
      (filled left).map Text.trimLeft =
        (filled right).map Text.trimLeft) :
    IsWhole rule right := by
  rcases hWhole with
    ⟨opening, inner, closing, hFilled, hOpening, hInner,
      hClosing⟩
  have hNest : Nest rule [opening] inner [closing] :=
    ⟨by simpa, hInner, by simpa, rfl⟩
  have hMap :
      (filled right).map Text.trimLeft =
        ([opening] ++ (inner ++ [closing])).map
          Text.trimLeft := by
    rw [← hTrim, hFilled]
    rfl
  rcases hNest.exists_of_trimLeft hMap with
    ⟨opens', inner', closes', hRight, hOther, hLength, _⟩
  rcases List.length_eq_one_iff.mp hLength with
    ⟨opening', rfl⟩
  rcases List.length_eq_one_iff.mp hOther.height.symm with
    ⟨closing', rfl⟩
  exact ⟨opening', inner', closing', hRight,
    hOther.opening opening' List.mem_cons_self, hOther.even,
    hOther.closing closing' List.mem_cons_self⟩

end Wrapper

end NotifyScope
