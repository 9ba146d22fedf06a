import NotifyScope.Diff.Compact
import NotifyScope.Proofs.Diff.Script

/-
  Moving operations does not change where a script leads.  Two
  operations of different kinds change places, of one kind
  they become one, and an insertion moves past lines that it
  starts or ends with.  The lines that deletions and
  insertions only name can be wrong afterwards.

  Key definitions include:
    * `Diff.Cursor.operations`

  Main declarations:
    * `Diff.script_swap`
    * `Diff.script_merge`
    * `Diff.Cursor.script_up`
    * `Diff.Cursor.script_down`
    * `Diff.script_compact`
-/

namespace NotifyScope

namespace Diff

variable {old new : Array Text}
variable {start stop : Place}
variable {rest : List Operation}

------------------------------------------------------------
-- Neighbours
------------------------------------------------------------

/- A deletion and an insertion can change places. -/
theorem script_swap
    {first second : Operation}
    (hKinds :
      first.kind = .insert ∧ second.kind = .delete ∨
        first.kind = .delete ∧ second.kind = .insert)
    (hScript :
      Script old new (first :: second :: rest) start stop) :
    Script old new (second :: first :: rest) start stop := by
  obtain ⟨middle, hFirst, place, hSecond, hRest⟩ := hScript
  cases hFirst with
  | equal => simp at hKinds
  | delete hPos =>
      cases hSecond with
      | insert hPos' =>
          exact ⟨_, step_insert hPos' rfl rfl,
            _, step_delete hPos rfl rfl, hRest⟩
      | equal => simp at hKinds
      | delete => simp at hKinds
  | insert hPos =>
      cases hSecond with
      | delete hPos' =>
          exact ⟨_, step_delete hPos' rfl rfl,
            _, step_insert hPos rfl rfl, hRest⟩
      | equal => simp at hKinds
      | insert => simp at hKinds

/- Two operations of one kind can become one. -/
theorem script_merge
    {first second : Operation}
    (hKinds : first.kind = second.kind)
    (hScript :
      Script old new (first :: second :: rest) start stop) :
    Script old new
      ({ first with
          length := first.length + second.length } :: rest)
      start stop := by
  obtain ⟨middle, hFirst, place, hSecond, hRest⟩ := hScript
  cases hFirst with
  | equal hPos hCommon =>
      cases hSecond with
      | equal hPos' hCommon' =>
          rw [Place.below_below] at hRest
          exact ⟨_, .equal (Nat.add_pos_left hPos _)
            (common_add_iff.mpr ⟨hCommon, hCommon'⟩), hRest⟩
      | delete => cases hKinds
      | insert => cases hKinds
  | delete hPos =>
      cases hSecond with
      | delete hPos' =>
          rw [Place.below_below] at hRest
          exact ⟨_, .delete (Nat.add_pos_left hPos _), hRest⟩
      | equal => cases hKinds
      | insert => cases hKinds
  | insert hPos =>
      cases hSecond with
      | insert hPos' =>
          rw [Place.below_below] at hRest
          exact ⟨_, .insert (Nat.add_pos_left hPos _), hRest⟩
      | equal => cases hKinds
      | delete => cases hKinds

/- Operations can be replaced by others that lead as far. -/
theorem script_replaceBehind
    {front back back' : List Operation}
    (hBack :
      ∀ place, Script old new back place stop →
        Script old new back' place stop)
    (hScript : Script old new (front ++ back) start stop) :
    Script old new (front ++ back') start stop := by
  obtain ⟨place, hFront, hBehind⟩ := leads_append.mp hScript
  exact leads_append.mpr ⟨place, hFront, hBack place hBehind⟩

namespace Cursor

/- All operations, from the first to the last. -/
def operations
    (cursor : Cursor) : List Operation :=
  cursor.before.reverse ++ cursor.operation :: cursor.after

------------------------------------------------------------
-- Upwards
------------------------------------------------------------

/- Common lines can be put in front of what is below. -/
theorem script_lowerLines
    {above operation : Operation}
    {count : Nat}
    {after : List Operation}
    (hPos : 0 < count)
    (hCommon : Common old new start count)
    (hOld : above.old + above.length = start.old + count)
    (hNew :
      operation.new + operation.newLength = start.new + count)
    (hAfter :
      Script old new after (start.below count count) stop) :
    Script old new (lowerLines above operation count after)
      start stop := by
  have hLines :
      Operation.Step old new
        ⟨.equal, above.old + above.length - count,
          operation.new + operation.newLength - count, count⟩
        start (start.below count count) :=
    step_equal hPos hCommon (by omega) (by omega) rfl
  cases after with
  | nil => exact ⟨_, hLines, hAfter⟩
  | cons next after =>
      by_cases hKind : next.kind = .equal
      · simp only [lowerLines, if_pos hKind]
        obtain ⟨place, hNext, hRest⟩ := hAfter
        cases hNext with
        | equal hPos' hCommon' =>
            rw [Place.below_below] at hRest
            refine ⟨_, step_equal ?_ ?_ ?_ ?_ rfl, ?_⟩
            · exact Nat.add_pos_left hPos' _
            · rw [Nat.add_comm]
              exact common_add_iff.mpr ⟨hCommon, hCommon'⟩
            · exact Nat.add_sub_cancel _ _
            · exact Nat.add_sub_cancel _ _
            · rwa [Nat.add_comm]
        | delete => cases hKind
        | insert => cases hKind
      · simp only [lowerLines, if_neg hKind]
        exact ⟨_, hLines, hAfter⟩

/- An insertion moves up past lines that it ends with. -/
theorem script_lift
    {above operation : Operation}
    (hInsert : operation.kind = .insert)
    (hEqual : above.kind = .equal)
    {count : Nat}
    (hCount :
      count =
        suffixLength old new
          (min above.length operation.length)
          (above.old + above.length)
          (operation.new + operation.length))
    (hPos : 0 < count)
    (hScript :
      Script old new (above :: operation :: rest) start stop) :
    Script old new
      (Diff.operation .equal above.old above.new
          (above.length - count) ++
        { operation with
            old := operation.old - count
            new := operation.new - count } ::
          lowerLines above operation count rest)
      start stop := by
  obtain ⟨middle, hAbove, place, hOperation, hRest⟩ :=
    hScript
  have hSuffix :
      Common old new
        ⟨above.old + above.length - count,
          operation.new + operation.length - count⟩ count := by
    rw [hCount]
    exact common_suffixLength (by omega) (by omega)
  have hLe : count ≤ min above.length operation.length :=
    hCount ▸ suffixLength_le _ _ _ _ _
  cases hAbove with
  | delete => cases hEqual
  | insert => cases hEqual
  | @equal _ length hLength hCommon =>
      cases hOperation with
      | equal => cases hInsert
      | delete => cases hInsert
      | @insert _ line length' hLength' =>
          dsimp only [Place.below] at hSuffix hLe ⊢
          obtain ⟨left, rfl⟩ : ∃ left, length = left + count :=
            ⟨length - count, by omega⟩
          -- The insertion ends in front of the lowered lines.
          have hPlace :
              ({ old := start.old + (left + count) - count
                 new := start.new + (left + count) + length' -
                   count } : Place) =
                start.below left (left + length') := by
            ext <;> dsimp only [Place.below] <;> omega
          have hBelow :
              (start.below (left + count) (left + count)).below
                  0 length' =
                (start.below left (left + length')).below count
                  count := by
            ext <;> dsimp only [Place.below] <;> omega
          rw [hPlace] at hSuffix
          rw [hBelow] at hRest
          rw [Nat.add_sub_cancel]
          refine leads_append.mpr ⟨start.below left left,
            script_equal (common_add_iff.mp hCommon).1,
            start.below left (left + length'), ?_, ?_⟩
          · refine step_insert hLength' ?_ (by simp)
            simp only [Place.below]
            omega
          · refine script_lowerLines hPos hSuffix ?_ ?_ hRest
            · simp only [Place.below]
              omega
            · simp only [Place.below, Operation.newLength]
              omega

/- The operations before a cursor are stored in reverse. -/
theorem script_reverse_cons
    {above : Operation}
    {after : List Operation} :
    Script old new ((above :: rest).reverse ++ after) start
        stop ↔
      Script old new (rest.reverse ++ above :: after) start
        stop := by
  rw [List.reverse_cons, List.append_assoc]
  rfl

/- No operation of a script covers nothing. -/
theorem length_ne_zero_of_script
    {front back : List Operation}
    {operation : Operation}
    (hScript :
      Script old new (front ++ operation :: back) start stop) :
    operation.length ≠ 0 := by
  obtain ⟨_, -, _, hStep, -⟩ := leads_append.mp hScript
  cases hStep <;> exact Nat.ne_of_gt ‹_›

/- Moving an operation up keeps where a script leads. -/
theorem script_up
    {before after : List Operation}
    {operation : Operation}
    (hScript :
      Script old new
        (before.reverse ++ operation :: after) start stop) :
    Script old new (up old new before operation after).operations
      start stop := by
  fun_induction up old new before operation after with
  | case1 operation after => exact hScript
  | case2 operation after above rest hEqual hInsert count hPos
      moved below hAll ih =>
      rw [script_reverse_cons] at hScript
      have hLift :=
        script_replaceBehind
          (fun _ => script_lift hInsert hEqual rfl hPos)
          hScript
      have hNone : above.length - count = 0 :=
        Nat.sub_eq_zero_of_le (Nat.le_of_eq hAll)
      rw [Diff.operation, if_pos hNone] at hLift
      exact ih hLift
  | case3 operation after above rest hEqual hInsert count hPos
      moved below hSome ih =>
      rw [script_reverse_cons] at hScript
      have hLe :=
        suffixLength_le old new
          (min above.length operation.length)
          (above.old + above.length)
          (operation.new + operation.length)
      have hLift :=
        script_replaceBehind
          (fun _ => script_lift hInsert hEqual rfl hPos)
          hScript
      rw [Diff.operation, if_neg (by omega), ← hEqual] at hLift
      exact ih (script_reverse_cons.mpr hLift)
  | case4 operation after above rest _ _ _ _ hEmpty =>
      rw [script_reverse_cons] at hScript
      exact absurd hEmpty (length_ne_zero_of_script hScript)
  | case5 operation after above rest => exact hScript
  | case6 operation after above rest _ _ hEmpty =>
      rw [script_reverse_cons] at hScript
      exact absurd hEmpty (length_ne_zero_of_script hScript)
  | case7 operation after above rest => exact hScript
  | case8 operation after above rest hDelete hInsert ih =>
      rw [script_reverse_cons] at hScript
      exact ih (script_replaceBehind
        (fun _ => script_swap (.inr ⟨hDelete, hInsert⟩))
        hScript)
  | case9 operation after above rest hInsert hDelete ih =>
      rw [script_reverse_cons] at hScript
      exact ih (script_replaceBehind
        (fun _ => script_swap (.inl ⟨hInsert, hDelete⟩))
        hScript)
  | case10 operation after above rest hAbove hKind ih
  | case11 operation after above rest hAbove hKind ih =>
      rw [script_reverse_cons] at hScript
      exact ih (script_replaceBehind
        (fun _ => script_merge (hAbove.trans hKind.symm))
        hScript)
  | case12 operation after above rest => exact hScript

------------------------------------------------------------
-- Downwards
------------------------------------------------------------

/- Common lines can be put behind what is above. -/
theorem script_raiseLines
    {below operation : Operation}
    {count : Nat}
    {before : List Operation}
    (hPos : 0 < count)
    (hCommon : Common old new stop count)
    (hOld : below.old = stop.old)
    (hNew : operation.new = stop.new)
    (hBefore : Script old new before.reverse start stop) :
    Script old new
      (raiseLines below operation count before).reverse start
      (stop.below count count) := by
  have hLines :
      Operation.Step old new
        ⟨.equal, below.old, operation.new, count⟩ stop
        (stop.below count count) :=
    step_equal hPos hCommon hOld hNew rfl
  cases before with
  | nil =>
      exact leads_append.mpr
        ⟨stop, hBefore, leads_singleton.mpr hLines⟩
  | cons above before =>
      by_cases hKind : above.kind = .equal
      · simp only [raiseLines, if_pos hKind]
        rw [List.reverse_cons] at hBefore ⊢
        obtain ⟨place, hFront, hAbove⟩ :=
          leads_append.mp hBefore
        rw [leads_singleton] at hAbove
        refine leads_append.mpr
          ⟨place, hFront, leads_singleton.mpr ?_⟩
        cases hAbove with
        | equal hPos' hCommon' =>
            refine step_equal (Nat.add_pos_left hPos' _)
              (common_add_iff.mpr ⟨hCommon', hCommon⟩) rfl rfl
              (Place.below_below _ _ _ _ _)
        | delete => cases hKind
        | insert => cases hKind
      · simp only [raiseLines, if_neg hKind]
        rw [List.reverse_cons]
        exact leads_append.mpr
          ⟨stop, hBefore, leads_singleton.mpr hLines⟩

/- An insertion moves down past lines that it starts with. -/
theorem script_sink
    {below operation : Operation}
    {before : List Operation}
    (hInsert : operation.kind = .insert)
    (hEqual : below.kind = .equal)
    {count : Nat}
    (hCount :
      count =
        prefixLength old new
          (min below.length operation.length)
          below.old operation.new)
    (hPos : 0 < count)
    (hScript :
      Script old new
        (before.reverse ++ operation :: below :: rest)
        start stop) :
    Script old new
      ((raiseLines below operation count before).reverse ++
        { operation with
            old := operation.old + count
            new := operation.new + count } ::
          (Diff.operation .equal (below.old + count)
              (below.new + count) (below.length - count) ++
            rest))
      start stop := by
  obtain ⟨place, hBefore, middle, hOperation, last, hBelow,
    hRest⟩ := leads_append.mp hScript
  have hPrefix :
      Common old new ⟨below.old, operation.new⟩ count :=
    hCount ▸ common_prefixLength _ _ _
  have hLe : count ≤ min below.length operation.length :=
    hCount ▸ prefixLength_le _ _ _ _ _
  cases hOperation with
  | equal => cases hInsert
  | delete => cases hInsert
  | @insert _ line length hLength =>
      cases hBelow with
      | delete => cases hEqual
      | insert => cases hEqual
      | @equal _ length' hLength' hCommon =>
          dsimp only at hPrefix hLe ⊢
          obtain ⟨left, rfl⟩ :
              ∃ left, length' = count + left :=
            ⟨length' - count, by omega⟩
          have hMoved :
              (place.below count count).below 0 length =
                (place.below 0 length).below count count := by
            ext <;> dsimp only [Place.below] <;> omega
          have hRaised : Common old new place count := hPrefix
          rw [Nat.add_sub_cancel_left]
          rw [← Place.below_below] at hRest
          refine leads_append.mpr
            ⟨place.below count count,
              script_raiseLines hPos hRaised rfl rfl hBefore,
              (place.below 0 length).below count count,
              step_insert hLength rfl hMoved.symm, ?_⟩
          exact leads_append.mpr
            ⟨_, script_equal (common_add_iff.mp hCommon).2,
              hRest⟩

/- Moving an operation down keeps where a script leads. -/
theorem script_down
    {before after : List Operation}
    {operation : Operation}
    (hScript :
      Script old new
        (before.reverse ++ operation :: after) start stop) :
    Script old new
      (down old new before operation after).operations
      start stop := by
  fun_induction down old new before operation after with
  | case1 before operation => exact hScript
  | case2 before operation below rest hEqual hInsert count hPos
      moved above hAll ih =>
      have hSink := script_sink hInsert hEqual rfl hPos hScript
      have hNone : below.length - count = 0 :=
        Nat.sub_eq_zero_of_le (Nat.le_of_eq hAll)
      rw [Diff.operation, if_pos hNone] at hSink
      exact ih hSink
  | case3 before operation below rest hEqual hInsert count hPos
      moved above hSome ih =>
      have hLe :=
        prefixLength_le old new
          (min below.length operation.length) below.old
          operation.new
      have hSink := script_sink hInsert hEqual rfl hPos hScript
      rw [Diff.operation, if_neg (by omega), ← hEqual] at hSink
      exact ih hSink
  | case4 before operation below rest _ _ _ _ hEmpty =>
      rw [← List.singleton_append, ← List.append_assoc]
        at hScript
      exact absurd hEmpty (length_ne_zero_of_script hScript)
  | case5 before operation below rest => exact hScript
  | case6 before operation below rest _ _ hEmpty =>
      rw [← List.singleton_append, ← List.append_assoc]
        at hScript
      exact absurd hEmpty (length_ne_zero_of_script hScript)
  | case7 before operation below rest => exact hScript
  | case8 before operation below rest hDelete hInsert ih =>
      refine ih (script_reverse_cons.mpr ?_)
      exact script_replaceBehind
        (fun _ => script_swap (.inl ⟨hInsert, hDelete⟩))
        hScript
  | case9 before operation below rest hInsert hDelete ih =>
      refine ih (script_reverse_cons.mpr ?_)
      exact script_replaceBehind
        (fun _ => script_swap (.inr ⟨hDelete, hInsert⟩))
        hScript
  | case10 before operation below rest hBelow hKind ih
  | case11 before operation below rest hBelow hKind ih =>
      exact ih (script_replaceBehind
        (fun _ => script_merge (hKind.trans hBelow.symm))
        hScript)
  | case12 before operation below rest => exact hScript

end Cursor

------------------------------------------------------------
-- Passes
------------------------------------------------------------

theorem script_pass
    {kind : Kind}
    {fuel : Nat}
    {before after : List Operation}
    (hScript :
      Script old new (before.reverse ++ after) start stop) :
    Script old new (pass old new kind fuel before after) start
      stop := by
  induction fuel generalizing before after with
  | zero => exact hScript
  | succ fuel ih =>
      cases after with
      | nil => rwa [List.append_nil] at hScript
      | cons operation after =>
          unfold pass
          split
          · have hUp := Cursor.script_up hScript
            have hDown := Cursor.script_down hUp
            exact ih (Cursor.script_reverse_cons.mpr hDown)
          · exact ih
              (Cursor.script_reverse_cons.mpr hScript)

/- So a script still leads where it led. -/
theorem script_compact
    {operations : List Operation}
    (hScript : Script old new operations start stop) :
    Script old new (compact old new operations) start stop :=
  script_pass (script_pass hScript)

end Diff

end NotifyScope
