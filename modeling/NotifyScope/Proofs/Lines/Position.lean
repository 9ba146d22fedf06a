import Mathlib.Data.List.GetD
import NotifyScope.Block
import NotifyScope.Proofs.Text.Trim

/-
  Lines by their numbers: what the searches for the next and
  the last line that is not blank find, and where the lines
  are once lists are put together.  Past the end a line is
  empty, hence blank, so that no bound on a number is needed
  beside the line being filled.

  Main declarations:
    * `Lines.nextFilled?_eq_some_iff`
    * `Lines.lastFilled?_eq_some_iff`
-/

------------------------------------------------------------
-- Lines of Lists Put Together
------------------------------------------------------------

namespace NotifyScope

namespace Lines

@[simp] theorem get_nil
    (i : Nat) :
    get [] i = [] := rfl

@[simp] theorem get_cons_zero
    (line : Line)
    (lines : Lines) :
    get (line :: lines) 0 = line := rfl

@[simp] theorem get_cons_succ
    (line : Line)
    (lines : Lines)
    (i : Nat) :
    get (line :: lines) (i + 1) = get lines i := rfl

theorem get_append_left
    (left right : Lines)
    {i : Nat}
    (hLess : i < left.length) :
    get (left ++ right) i = get left i :=
  List.getD_append left right [] i hLess

@[simp] theorem get_append_right
    (left right : Lines)
    (i : Nat) :
    get (left ++ right) (left.length + i) = get right i := by
  unfold get
  rw [List.getD_append_right left right [] _
    (Nat.le_add_right left.length i), Nat.add_sub_cancel_left]

/- The first line of the second list. -/
theorem get_length_append
    (left right : Lines) :
    get (left ++ right) left.length = get right 0 :=
  get_append_right left right 0

theorem get_of_length_le
    {lines : Lines}
    {i : Nat}
    (hLength : lines.length ≤ i) :
    get lines i = [] :=
  List.getD_eq_default lines [] hLength

theorem get_eq_getElem
    {lines : Lines}
    {i : Nat}
    (hLess : i < lines.length) :
    get lines i = lines[i] :=
  List.getD_eq_getElem lines [] hLess

theorem get_take
    (lines : Lines)
    {i n : Nat}
    (hLess : i < n) :
    get (lines.take n) i = get lines i := by
  unfold get
  rw [List.getD_eq_getElem?_getD, List.getD_eq_getElem?_getD,
    List.getElem?_take_of_lt hLess]

theorem get_drop
    (lines : Lines)
    (n i : Nat) :
    get (lines.drop n) i = get lines (n + i) := by
  unfold get
  rw [List.getD_eq_getElem?_getD, List.getD_eq_getElem?_getD,
    List.getElem?_drop]

theorem get_set
    (lines : Lines)
    {i j : Nat}
    (hNe : j ≠ i)
    (line : Line) :
    get (lines.set i line) j = get lines j := by
  unfold get
  rw [List.getD_eq_getElem?_getD, List.getD_eq_getElem?_getD,
    List.getElem?_set_ne hNe.symm]

theorem get_set_self
    {lines : Lines}
    {i : Nat}
    (hLess : i < lines.length)
    (line : Line) :
    get (lines.set i line) i = line := by
  rw [get_eq_getElem (by simpa using hLess),
    List.getElem_set_self]

theorem get_insertIdx_self
    {lines : Lines}
    {i : Nat}
    (hLe : i ≤ lines.length)
    (line : Line) :
    get (lines.insertIdx i line) i = line := by
  have hLength :
      i < (lines.insertIdx i line).length := by
    rw [List.length_insertIdx, if_pos hLe]
    omega
  rw [get_eq_getElem hLength, List.getElem_insertIdx_self]

/- Behind a line that comes or goes the others move. -/
theorem drop_insertIdx
    (lines : Lines)
    (i : Nat)
    (line : Line) :
    (lines.insertIdx i line).drop (i + 1) =
      lines.drop i := by
  apply List.ext_getElem?
  intro k
  rw [List.getElem?_drop, List.getElem?_drop,
    List.getElem?_insertIdx_of_gt (by omega)]
  congr 1
  omega

theorem drop_eraseIdx
    (lines : Lines)
    {i j : Nat}
    (hLe : j ≤ i) :
    (lines.eraseIdx j).drop i = lines.drop (i + 1) := by
  apply List.ext_getElem?
  intro k
  rw [List.getElem?_drop, List.getElem?_drop,
    List.getElem?_eraseIdx_of_ge (by omega)]
  congr 1
  omega

theorem get_eq_of_drop_eq
    {left right : Lines}
    {a b : Nat}
    (hDrop : left.drop a = right.drop b)
    (i : Nat) :
    get right (b + i) = get left (a + i) := by
  rw [← get_drop, ← get_drop, hDrop]

/- A line that is not blank is one of the lines. -/
theorem lt_length_of_filled
    {lines : Lines}
    {i : Nat}
    (hFilled : Text.allBlank (get lines i) = false) :
    i < lines.length := by
  by_contra hLength
  rw [get_of_length_le (Nat.le_of_not_lt hLength)] at hFilled
  exact absurd hFilled (by decide)

theorem mem_of_lt_length
    {lines : Lines}
    {i : Nat}
    (hLess : i < lines.length) :
    get lines i ∈ lines := by
  rw [get_eq_getElem hLess]
  exact List.getElem_mem hLess

------------------------------------------------------------
-- The Next Line That Is Not Blank
------------------------------------------------------------

theorem nextFilled?_eq_some_iff
    {lines : Lines}
    {start i : Nat} :
    nextFilled? lines start = some i ↔
      start ≤ i ∧ Text.allBlank (get lines i) = false ∧
        ∀ j, start ≤ j → j < i →
          Text.allBlank (get lines j) = true := by
  unfold nextFilled?
  rw [Option.map_eq_some_iff]
  constructor
  · rintro ⟨k, hFind, rfl⟩
    rw [List.findIdx?_eq_some_iff_getElem] at hFind
    rcases hFind with ⟨hLess, hFilled, hBlank⟩
    refine ⟨Nat.le_add_right start k, ?_, ?_⟩
    · rw [← get_eq_getElem hLess, get_drop] at hFilled
      simpa using hFilled
    · intro j hStart hj
      have hEarlier := hBlank (j - start) (by omega)
      rw [← get_eq_getElem, get_drop,
        Nat.add_sub_cancel' hStart] at hEarlier
      simpa using hEarlier
  · rintro ⟨hStart, hFilled, hBlank⟩
    refine ⟨i - start, ?_, Nat.add_sub_cancel' hStart⟩
    have hLess := lt_length_of_filled hFilled
    rw [List.findIdx?_eq_some_iff_getElem]
    refine ⟨by rw [List.length_drop]; omega, ?_, ?_⟩
    · rw [← get_eq_getElem, get_drop,
        Nat.add_sub_cancel' hStart, hFilled]
      rfl
    · intro j hj
      rw [← get_eq_getElem, get_drop,
        hBlank (start + j) (Nat.le_add_right start j)
          (by omega)]
      decide

theorem nextFilled?_eq_none_iff
    {lines : Lines}
    {start : Nat} :
    nextFilled? lines start = none ↔
      ∀ i, start ≤ i →
        Text.allBlank (get lines i) = true := by
  constructor
  · intro hNone i hStart
    unfold nextFilled? at hNone
    rw [Option.map_eq_none_iff, List.findIdx?_eq_none_iff]
      at hNone
    by_cases hLess : i < lines.length
    · have hMem : get lines i ∈ lines.drop start := by
        rw [← Nat.add_sub_cancel' hStart, ← get_drop]
        apply mem_of_lt_length
        rw [List.length_drop]
        omega
      simpa using hNone _ hMem
    · rw [get_of_length_le (Nat.le_of_not_lt hLess)]
      rfl
  · intro hBlank
    cases hNext : nextFilled? lines start with
    | none => rfl
    | some i =>
        rcases nextFilled?_eq_some_iff.mp hNext with
          ⟨hStart, hFilled, _⟩
        rw [hBlank i hStart] at hFilled
        exact absurd hFilled (by decide)

------------------------------------------------------------
-- The Last Line That Is Not Blank
------------------------------------------------------------

theorem lastFilled?_eq_some_iff
    {lines : Lines}
    {start stop i : Nat} :
    lastFilled? lines start stop = some i ↔
      start ≤ i ∧ i < stop ∧
        Text.allBlank (get lines i) = false ∧
          ∀ j, i < j → j < stop →
            Text.allBlank (get lines j) = true := by
  induction stop with
  | zero => simp [lastFilled?]
  | succ stop ih =>
      rw [lastFilled?]
      by_cases hStart : stop < start
      · rw [if_pos hStart]
        constructor
        · intro hNone
          cases hNone
        · rintro ⟨hLe, hLess, _⟩
          omega
      · rw [if_neg hStart]
        cases hStop : Text.allBlank (get lines stop) with
        | true =>
            rw [if_pos rfl, ih]
            constructor
            · rintro ⟨hLe, hLess, hFilled, hBlank⟩
              refine ⟨hLe, by omega, hFilled, ?_⟩
              intro j hj hjStop
              by_cases hEq : j = stop
              · rw [hEq]
                exact hStop
              · exact hBlank j hj (by omega)
            · rintro ⟨hLe, hLess, hFilled, hBlank⟩
              have hNe : i ≠ stop := by
                intro hEq
                rw [hEq, hStop] at hFilled
                exact absurd hFilled (by decide)
              refine ⟨hLe, by omega, hFilled, ?_⟩
              intro j hj hjStop
              exact hBlank j hj (by omega)
        | false =>
            rw [if_neg (by decide), Option.some.injEq]
            constructor
            · rintro rfl
              refine ⟨by omega, by omega, hStop, ?_⟩
              intro j hj hjStop
              omega
            · rintro ⟨_, hLess, _, hBlank⟩
              by_contra hNe
              have hBlankStop :=
                hBlank stop (by omega) (by omega)
              rw [hStop] at hBlankStop
              exact absurd hBlankStop (by decide)

theorem lastFilled?_eq_none_iff
    {lines : Lines}
    {start stop : Nat} :
    lastFilled? lines start stop = none ↔
      ∀ i, start ≤ i → i < stop →
        Text.allBlank (get lines i) = true := by
  induction stop with
  | zero => simp [lastFilled?]
  | succ stop ih =>
      rw [lastFilled?]
      by_cases hStart : stop < start
      · rw [if_pos hStart]
        simp only [true_iff]
        intro i hLe hLess
        omega
      · rw [if_neg hStart]
        cases hStop : Text.allBlank (get lines stop) with
        | true =>
            rw [if_pos rfl, ih]
            constructor
            · intro hBlank i hLe hLess
              by_cases hEq : i = stop
              · rw [hEq]
                exact hStop
              · exact hBlank i hLe (by omega)
            · intro hBlank i hLe hLess
              exact hBlank i hLe (by omega)
        | false =>
            rw [if_neg (by decide)]
            constructor
            · intro hNone
              cases hNone
            · intro hBlank
              have hBlankStop :=
                hBlank stop (by omega) (by omega)
              rw [hStop] at hBlankStop
              exact absurd hBlankStop (by decide)

end Lines

end NotifyScope
