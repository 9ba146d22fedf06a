import NotifyScope.Proofs.Block.Depth

/-
  Lines apart from the blank ones, and stretches of lines in
  which the depth of braces stays above a level.  Neither the
  searches for a line nor the depth of braces see a blank
  line, so that a list can be taken apart as its filled lines
  are, and a block closes behind a stretch as it would if the
  stretch were not there.

  Key definitions include:
    * `Lines.filled`
    * `Lines.Runs`

  Main declarations:
    * `Lines.exists_of_filled_eq_append`
    * `Lines.nextFilled?_seen_cons`
    * `Lines.lastFilled?_seen_cons`
    * `Lines.Runs.append`
    * `Lines.Runs.filled_iff`
    * `Lines.Runs.closeOffset?_append`
-/

------------------------------------------------------------
-- Filled Lines
------------------------------------------------------------

namespace NotifyScope

namespace Lines

/- The lines that are not blank. -/
def filled
    (lines : Lines) : Lines :=
  lines.filter fun line => !Text.allBlank line

@[simp] theorem filled_append
    (left right : Lines) :
    filled (left ++ right) = filled left ++ filled right :=
  List.filter_append left right

theorem filled_cons_of_blank
    {line : Line}
    (rest : Lines)
    (hLine : Text.allBlank line = true) :
    filled (line :: rest) = filled rest := by
  unfold filled
  rw [List.filter_cons_of_neg (by simp [hLine])]

theorem filled_cons_of_filled
    {line : Line}
    (rest : Lines)
    (hLine : Text.allBlank line = false) :
    filled (line :: rest) = line :: filled rest := by
  unfold filled
  rw [List.filter_cons_of_pos (by simp [hLine])]

theorem allBlank_of_mem_filled
    {lines : Lines}
    {line : Line}
    (hMem : line ∈ filled lines) :
    Text.allBlank line = false := by
  unfold filled at hMem
  rw [List.mem_filter] at hMem
  simpa using hMem.2

theorem allBlank_of_filled_eq_nil
    {gap : Lines}
    (hGap : filled gap = [])
    {line : Line}
    (hMem : line ∈ gap) :
    Text.allBlank line = true := by
  unfold filled at hGap
  rw [List.filter_eq_nil_iff] at hGap
  simpa using hGap line hMem

theorem get_of_filled_eq_nil
    {gap : Lines}
    (hGap : filled gap = [])
    {i : Nat}
    (hLess : i < gap.length) :
    Text.allBlank (get gap i) = true :=
  allBlank_of_filled_eq_nil hGap (mem_of_lt_length hLess)

theorem filled_eq_nil_of_get
    {gap : Lines}
    (hBlank : ∀ i, i < gap.length →
      Text.allBlank (get gap i) = true) :
    filled gap = [] := by
  unfold filled
  rw [List.filter_eq_nil_iff]
  intro line hMem
  rcases List.getElem_of_mem hMem with ⟨i, hLess, rfl⟩
  rw [← get_eq_getElem hLess, hBlank i hLess]
  decide

/- A list can be cut wherever its filled lines can. -/
theorem exists_of_filled_eq_append
    {lines front back : Lines}
    (hFilled : filled lines = front ++ back) :
    ∃ before after, lines = before ++ after ∧
      filled before = front ∧ filled after = back :=
  List.filter_eq_append_iff.mp hFilled

/- In front of its first filled line stand blank ones. -/
theorem exists_of_filled_eq_cons
    {lines back : Lines}
    {line : Line}
    (hFilled : filled lines = line :: back) :
    ∃ gap after, lines = gap ++ line :: after ∧
      filled gap = [] ∧ filled after = back := by
  rcases List.filter_eq_cons_iff.mp hFilled with
    ⟨gap, after, hLines, hGap, _, hBack⟩
  exact ⟨gap, after, hLines,
    List.filter_eq_nil_iff.mpr hGap, hBack⟩

/- A change of single lines that keeps them blank or not. -/
theorem filled_map
    (lines : Lines)
    {change : Line → Line}
    (hBlank : ∀ line,
      Text.allBlank (change line) = Text.allBlank line) :
    filled (lines.map change) =
      (filled lines).map change := by
  unfold filled
  rw [List.filter_map]
  congr 2
  funext line
  rw [Function.comp_apply, hBlank]

/- What is left of blank lines is left out. -/
theorem map_trimLeft_filled
    (lines : Lines) :
    (filled lines).map Text.trimLeft =
      (lines.map Text.trimLeft).filter
        fun text => !text.isEmpty := by
  unfold filled
  rw [List.filter_map]
  congr 2
  funext line
  rw [Function.comp_apply, Bool.not_inj_iff,
    Bool.eq_iff_iff, List.isEmpty_iff,
    Text.trimLeft_eq_nil_iff]

theorem map_trimLeft_filled_congr
    {left right : Lines}
    (hTrim :
      left.map Text.trimLeft = right.map Text.trimLeft) :
    (filled left).map Text.trimLeft =
      (filled right).map Text.trimLeft := by
  rw [map_trimLeft_filled, hTrim, ← map_trimLeft_filled]

/- A list with one of its lines picked out. -/
theorem exists_eq_append_cons
    {lines : Lines}
    {k : Nat}
    (hLess : k < lines.length) :
    ∃ front line back,
      lines = front ++ line :: back ∧ front.length = k := by
  refine ⟨lines.take k, lines[k], lines.drop (k + 1), ?_, ?_⟩
  · rw [← List.drop_eq_getElem_cons hLess,
      List.take_append_drop]
  · rw [List.length_take]
    omega

------------------------------------------------------------
-- Searches
------------------------------------------------------------

/- The next filled line behind a line and blank lines. -/
theorem nextFilled?_seen_cons
    (seen : Lines)
    (line : Line)
    {gap : Lines}
    {next : Line}
    (rest : Lines)
    (hGap : filled gap = [])
    (hNext : Text.allBlank next = false) :
    nextFilled? (seen ++ line :: (gap ++ next :: rest))
        (seen.length + 1) =
      some (seen ++ line :: gap).length := by
  have hSplit :
      seen ++ line :: (gap ++ next :: rest) =
        (seen ++ line :: gap) ++ next :: rest := by
    simp
  rw [nextFilled?_eq_some_iff]
  refine ⟨by simp, ?_, ?_⟩
  · rw [hSplit, get_length_append, get_cons_zero]
    exact hNext
  · intro i hi hLess
    rw [List.length_append, List.length_cons] at hLess
    rw [hSplit, get_append_left _ _ (by simpa using hLess)]
    obtain ⟨j, rfl⟩ := Nat.exists_eq_add_of_le hi
    rw [Nat.add_assoc, get_append_right, Nat.add_comm 1 j,
      get_cons_succ]
    exact get_of_filled_eq_nil hGap (by omega)

/- The last filled line in front of blank lines. -/
theorem lastFilled?_seen_cons
    (seen : Lines)
    (line : Line)
    (inner : Lines)
    {last : Line}
    {gap : Lines}
    (rest : Lines)
    (hLast : Text.allBlank last = false)
    (hGap : filled gap = []) :
    lastFilled?
        (seen ++ line :: (inner ++ last :: (gap ++ rest)))
        (seen.length + 1)
        (seen ++ line :: (inner ++ last :: gap)).length =
      some (seen ++ line :: inner).length := by
  have hSplit :
      seen ++ line :: (inner ++ last :: (gap ++ rest)) =
        (seen ++ line :: inner) ++ last :: (gap ++ rest) := by
    simp
  rw [lastFilled?_eq_some_iff]
  refine ⟨by simp, by simp, ?_, ?_⟩
  · rw [hSplit, get_length_append, get_cons_zero]
    exact hLast
  · intro i hi hLess
    simp only [List.length_append, List.length_cons]
      at hi hLess
    obtain ⟨j, rfl⟩ := Nat.exists_eq_add_of_le
      (show (seen ++ line :: inner).length + 1 ≤ i by
        simp only [List.length_append, List.length_cons]
        omega)
    simp only [List.length_append, List.length_cons] at hLess
    rw [hSplit, Nat.add_assoc, get_append_right,
      Nat.add_comm 1 j, get_cons_succ,
      get_append_left gap rest (by omega)]
    exact get_of_filled_eq_nil hGap (by omega)

------------------------------------------------------------
-- Running Depth
------------------------------------------------------------

/-
  Lines over which the depth of braces goes from one level to
  another and is never below zero.
-/
inductive Runs : Int → Lines → Int → Prop where
  | nil
      {level : Int}
      (hLevel : 0 ≤ level) :
      Runs level [] level
  | cons
      {level after : Int}
      {line : Line}
      {rest : Lines}
      (hLevel : 0 ≤ level)
      (hRest :
        Runs (level + Line.braceBalance line) rest after) :
      Runs level (line :: rest) after

namespace Runs

variable {left right lines : Lines}
variable {level middle after : Int}

theorem nonneg
    (hRuns : Runs level lines after) :
    0 ≤ level := by
  cases hRuns with
  | nil hLevel => exact hLevel
  | cons hLevel _ => exact hLevel

/- One stretch of lines after another. -/
theorem append
    (hLeft : Runs level left middle)
    (hRight : Runs middle right after) :
    Runs level (left ++ right) after := by
  induction hLeft with
  | nil _ => exact hRight
  | cons hLevel _ ih => exact .cons hLevel (ih hRight)

/- The same lines start at a higher level. -/
theorem shift
    {more : Int}
    (hMore : 0 ≤ more)
    (hRuns : Runs level lines after) :
    Runs (level + more) lines (after + more) := by
  induction hRuns with
  | nil hLevel => exact .nil (by omega)
  | cons hLevel _ ih =>
      refine .cons (by omega) ?_
      rw [Int.add_right_comm]
      exact ih

/- The lines that matter are the filled ones. -/
theorem filled_iff :
    Runs level (filled lines) after ↔
      Runs level lines after := by
  induction lines generalizing level with
  | nil => exact Iff.rfl
  | cons line rest ih =>
      cases hBlank : Text.allBlank line with
      | true =>
          have hBalance := Line.braceBalance_of_allBlank hBlank
          rw [filled_cons_of_blank rest hBlank, ih]
          constructor
          · intro hRest
            refine .cons hRest.nonneg ?_
            rw [hBalance, Int.add_zero]
            exact hRest
          · intro hRuns
            cases hRuns with
            | cons _ hRest =>
                rw [hBalance, Int.add_zero] at hRest
                exact hRest
      | false =>
          rw [filled_cons_of_filled rest hBlank]
          constructor
          · intro hRuns
            cases hRuns with
            | cons hLevel hRest =>
                exact .cons hLevel (ih.mp hRest)
          · intro hRuns
            cases hRuns with
            | cons hLevel hRest =>
                exact .cons hLevel (ih.mpr hRest)

theorem of_filled_eq_nil
    (hLevel : 0 ≤ level)
    (hGap : filled lines = []) :
    Runs level lines level := by
  rw [← filled_iff, hGap]
  exact .nil hLevel

/- White space in front of lines does not matter. -/
theorem congr_trimLeft
    (hTrim :
      left.map Text.trimLeft = right.map Text.trimLeft)
    (hLeft : Runs level left after) :
    Runs level right after := by
  induction hLeft generalizing right with
  | nil hLevel =>
      rw [List.map_nil, eq_comm, List.map_eq_nil_iff]
        at hTrim
      rw [hTrim]
      exact .nil hLevel
  | cons hLevel _ ih =>
      cases right with
      | nil => cases hTrim
      | cons line rest =>
          rw [List.map_cons, List.map_cons,
            List.cons.injEq] at hTrim
          refine .cons hLevel ?_
          rw [← Line.braceBalance_eq_of_trim_eq
            (congrArg Text.trimRight hTrim.1)]
          exact ih hTrim.2

/-
  A block that is open in front of the lines closes behind
  them as if it were open at the level that they lead to.
-/
theorem closeOffset?_append
    (hRuns : Runs level left after)
    (right : Lines) :
    Block.closeOffset? (1 + level) (left ++ right) =
      (Block.closeOffset? (1 + after) right).map
        (left.length + ·) := by
  induction hRuns with
  | nil _ => simp
  | @cons level after line rest hLevel hRest ih =>
      have hAfter := hRest.nonneg
      rw [List.cons_append, Block.closeOffset?]
      simp only [Int.add_assoc]
      rw [if_neg (by omega), if_neg (by omega), ih,
        Option.map_map]
      congr 1
      funext n
      simp only [Function.comp_apply, List.length_cons]
      omega

/- In front of the line that closes a block it stays open. -/
theorem of_closeOffset?
    {line : Line}
    {rest : Lines}
    (hLevel : 0 ≤ level)
    (hClose :
      Block.closeOffset? (1 + level)
        (lines ++ line :: rest) = some lines.length) :
    Runs level lines (-1 - Line.braceBalance line) := by
  induction lines generalizing level with
  | nil =>
      rw [List.nil_append, Block.closeOffset?] at hClose
      split at hClose
      · have hEnd :
            level = -1 - Line.braceBalance line := by
          omega
        rw [← hEnd]
        exact .nil hLevel
      · split at hClose
        · cases hClose
        · simp at hClose
  | cons first lines ih =>
      rw [List.cons_append, Block.closeOffset?] at hClose
      split at hClose
      · simp at hClose
      · split at hClose
        · cases hClose
        · refine .cons hLevel (ih (by omega) ?_)
          rw [Option.map_eq_some_iff] at hClose
          rcases hClose with ⟨k, hRest, hLength⟩
          rw [List.length_cons, Nat.succ_inj] at hLength
          rw [← hLength, ← Int.add_assoc]
          exact hRest

end Runs

end Lines

end NotifyScope
