import NotifyScope.Proofs.Lines.Position
import NotifyScope.Wrapper.Repair

/-
  Moving lines in or back changes the white space in front of
  them and nothing else: every line is the same once it is
  trimmed, and stays where it is.

  Main declarations:
    * `Line.trim_shift`
    * `Line.trim_outdent`
    * `Lines.trim_get_outdent`
-/

------------------------------------------------------------
-- Single Lines
------------------------------------------------------------

namespace NotifyScope

namespace Line

theorem trimLeft_shift
    {unit : Text}
    (line : Line)
    (hUnit : Text.allBlank unit = true) :
    Text.trimLeft (shift unit line) = Text.trimLeft line := by
  unfold shift
  split
  · rfl
  · exact Text.trimLeft_append_left line hUnit

theorem trim_shift
    {unit : Text}
    (line : Line)
    (hUnit : Text.allBlank unit = true) :
    Text.trim (shift unit line) = Text.trim line :=
  congrArg Text.trimRight (trimLeft_shift line hUnit)

/- Outdenting only changes white space in front. -/
theorem trimLeft_outdent
    {outer inner : Text}
    (line : Line)
    (hOuter : Text.allBlank outer = true)
    (hInner : Text.allBlank inner = true) :
    Text.trimLeft (outdent outer inner line) =
      Text.trimLeft line := by
  unfold outdent
  split
  · rename_i hPrefix
    rw [List.isPrefixOf_iff_prefix] at hPrefix
    rcases hPrefix with ⟨rest, rfl⟩
    rw [List.drop_left,
      Text.trimLeft_append_left rest hOuter,
      Text.trimLeft_append_left rest hInner]
  · rfl

theorem trim_outdent
    {outer inner : Text}
    (line : Line)
    (hOuter : Text.allBlank outer = true)
    (hInner : Text.allBlank inner = true) :
    Text.trim (outdent outer inner line) =
      Text.trim line :=
  congrArg Text.trimRight
    (trimLeft_outdent line hOuter hInner)

end Line

------------------------------------------------------------
-- Lists of Lines
------------------------------------------------------------

namespace Lines

theorem get_mapIdx
    (lines : Lines)
    (change : Nat → Line → Line)
    {i : Nat}
    (hLess : i < lines.length) :
    get (lines.mapIdx change) i = change i (get lines i) := by
  rw [get_eq_getElem (by simpa using hLess),
    get_eq_getElem hLess, List.getElem_mapIdx]

/- A change of every line that leaves the empty one alone. -/
theorem get_map
    (lines : Lines)
    {change : Line → Line}
    (hNil : change [] = [])
    (i : Nat) :
    get (lines.map change) i = change (get lines i) := by
  by_cases hLess : i < lines.length
  · rw [get_eq_getElem (by simpa using hLess),
      get_eq_getElem hLess, List.getElem_map]
  · have hLength := Nat.le_of_not_lt hLess
    rw [get_of_length_le hLength,
      get_of_length_le (by simpa using hLength), hNil]

theorem get_eraseIdx_of_lt
    (lines : Lines)
    {i j : Nat}
    (hLess : i < j) :
    get (lines.eraseIdx j) i = get lines i := by
  unfold get
  rw [List.getD_eq_getElem?_getD, List.getD_eq_getElem?_getD,
    List.getElem?_eraseIdx_of_lt hLess]

theorem get_eraseIdx_of_ge
    (lines : Lines)
    {i j : Nat}
    (hLe : j ≤ i) :
    get (lines.eraseIdx j) i = get lines (i + 1) := by
  unfold get
  rw [List.getD_eq_getElem?_getD, List.getD_eq_getElem?_getD,
    List.getElem?_eraseIdx_of_ge hLe]

theorem trimLeft_get_outdent
    (lines : Lines)
    (outer inner stop i : Nat) :
    Text.trimLeft (get (outdent lines outer inner stop) i) =
      Text.trimLeft (get lines i) := by
  by_cases hLess : i < lines.length
  · unfold outdent
    simp only
    split
    · rw [get_mapIdx lines _ hLess]
      split
      · exact Line.trimLeft_outdent _
          (Text.allBlank_leading _) (Text.allBlank_leading _)
      · rfl
    · rfl
  · have hLength := Nat.le_of_not_lt hLess
    rw [get_of_length_le hLength,
      get_of_length_le (by
        rw [length_outdent]
        exact hLength)]

theorem trim_get_outdent
    (lines : Lines)
    (outer inner stop i : Nat) :
    Text.trim (get (outdent lines outer inner stop) i) =
      Text.trim (get lines i) :=
  congrArg Text.trimRight (trimLeft_get_outdent ..)

end Lines

end NotifyScope
