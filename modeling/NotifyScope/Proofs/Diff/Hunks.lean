import NotifyScope.Diff.Unified
import NotifyScope.Proofs.Diff.Compact

/-
  The hunks of two texts.  The segments of a script lead where
  the script leads, and so do the hunks that they are divided
  into, with the lines between them in common.  A segment
  without old lines can name a wrong old line, and one without
  new lines a wrong new one.

  Key definitions include:
    * `Diff.Segment.Step`
    * `Diff.Pending.Fits`
    * `Diff.Covers`

  Main declarations:
    * `Diff.course_segments`
    * `Diff.Segment.Step.divide`
    * `Diff.covers_group`
    * `Diff.covers_compare`
-/

namespace NotifyScope

namespace Diff

variable {old new : Array Text}
variable {start stop : Place}

------------------------------------------------------------
-- Segments
------------------------------------------------------------

/- Whether a segment leads from one place to another. -/
structure Segment.Step
    (old new : Array Text)
    (segment : Segment)
    (start stop : Place) : Prop where
  pos : 0 < segment.oldLength + segment.newLength
  old_eq : 0 < segment.oldLength → segment.old = start.old
  new_eq : 0 < segment.newLength → segment.new = start.new
  common :
    segment.isEqual = true →
      segment.oldLength = segment.newLength ∧
        Common old new start segment.oldLength
  stop_eq :
    stop = start.below segment.oldLength segment.newLength

/- Whether segments lead from one place to another. -/
abbrev Course
    (old new : Array Text) :
    List Segment → (start stop : Place) → Prop :=
  Leads (Segment.Step old new)

/- The segment of an operation leads where it leads. -/
theorem step_ofOperation
    {operation : Operation}
    (hStep : operation.Step old new start stop) :
    (Segment.ofOperation operation).Step old new start stop := by
  cases hStep with
  | equal hPos hCommon =>
      exact ⟨Nat.add_pos_left hPos _, fun _ => rfl,
        fun _ => rfl, fun _ => ⟨rfl, hCommon⟩, rfl⟩
  | delete hPos =>
      exact ⟨hPos, fun _ => rfl,
        fun hNew => absurd hNew (Nat.lt_irrefl 0), nofun, rfl⟩
  | insert hPos =>
      exact ⟨Nat.add_pos_right _ hPos,
        fun hOld => absurd hOld (Nat.lt_irrefl 0),
        fun _ => rfl, nofun, rfl⟩

namespace Pending

/- Whether pending changes are what they are called. -/
structure Fits
    (pending : Pending) : Prop where
  deleted :
    ∀ operation ∈ pending.deleted, operation.kind = .delete
  inserted :
    ∀ operation ∈ pending.inserted, operation.kind = .insert

/- The operations that are pending. -/
def operations
    (pending : Pending) : List Operation :=
  pending.deleted.toList ++ pending.inserted.toList

variable {pending : Pending}
variable {operation : Operation}
variable {rest : List Operation}

/- Pending changes lead where their operations lead. -/
theorem course_segments
    (hFits : pending.Fits)
    (hScript :
      Script old new pending.operations start stop) :
    Course old new pending.segments start stop := by
  rcases pending with ⟨deleted, inserted⟩
  cases deleted with
  | none =>
      cases inserted with
      | none => exact hScript
      | some second =>
          exact leads_singleton.mpr
            (step_ofOperation (leads_singleton.mp hScript))
  | some first =>
      cases inserted with
      | none =>
          exact leads_singleton.mpr
            (step_ofOperation (leads_singleton.mp hScript))
      | some second =>
          obtain ⟨place, hFirst, last, hSecond, rfl⟩ := hScript
          have hDelete : first.kind = .delete :=
            hFits.deleted first rfl
          have hInsert : second.kind = .insert :=
            hFits.inserted second rfl
          cases hFirst with
          | equal => cases hDelete
          | insert => cases hDelete
          | delete hPos =>
              cases hSecond with
              | equal => cases hInsert
              | delete => cases hInsert
              | insert hPos' =>
                  refine leads_singleton.mpr ⟨?_, fun _ => rfl,
                    fun _ => rfl, nofun, ?_⟩
                  · exact Nat.add_pos_left hPos _
                  · rw [Place.below_below, Nat.add_zero,
                      Nat.zero_add]

/- A deletion can be put to the pending ones. -/
theorem script_join_deleted
    (hFits : pending.Fits)
    (hDelete : operation.kind = .delete)
    (hScript :
      Script old new (pending.operations ++ operation :: rest)
        start stop) :
    Script old new
      (join operation pending.deleted ::
        (pending.inserted.toList ++ rest))
      start stop := by
  rcases pending with ⟨deleted, inserted⟩
  have hSwapped :
      Script old new
        (deleted.toList ++
          operation :: (inserted.toList ++ rest))
        start stop := by
    cases inserted with
    | none => simpa [operations] using hScript
    | some second =>
        simp only [operations, List.append_assoc] at hScript
        exact script_replaceBehind
          (fun _ => script_swap
            (.inl ⟨hFits.inserted second rfl, hDelete⟩))
          hScript
  cases deleted with
  | none => exact hSwapped
  | some first =>
      exact script_merge
        ((hFits.deleted first rfl).trans hDelete.symm) hSwapped

/- An insertion can be put to the pending ones. -/
theorem script_join_inserted
    (hFits : pending.Fits)
    (hInsert : operation.kind = .insert)
    (hScript :
      Script old new (pending.operations ++ operation :: rest)
        start stop) :
    Script old new
      (pending.deleted.toList ++
        join operation pending.inserted :: rest)
      start stop := by
  rcases pending with ⟨deleted, inserted⟩
  simp only [operations, List.append_assoc] at hScript
  cases inserted with
  | none => exact hScript
  | some second =>
      exact script_replaceBehind
        (fun _ => script_merge
          ((hFits.inserted second rfl).trans hInsert.symm))
        hScript

theorem kind_join
    {kind : Kind}
    {pending : Option Operation}
    (hKind : operation.kind = kind)
    (hPending :
      ∀ operation ∈ pending, operation.kind = kind) :
    (join operation pending).kind = kind := by
  cases pending with
  | none => exact hKind
  | some first => exact hPending first rfl

end Pending

/- Segments of operations lead where the operations lead. -/
theorem course_ofOperation
    {operations : List Operation}
    (hScript : Script old new operations start stop) :
    Course old new (operations.map Segment.ofOperation) start
      stop := by
  induction operations generalizing start with
  | nil => exact hScript
  | cons operation operations ih =>
      obtain ⟨place, hStep, hRest⟩ := hScript
      exact ⟨place, step_ofOperation hStep, ih hRest⟩

/-
  The segments lead where the script leads.  There are either
  equal lines that can become more, or pending changes.
-/
theorem course_segmentsFrom
    {equal : Option Operation}
    {pending : Pending}
    {operations : List Operation}
    (hState : equal = none ∨ pending = {})
    (hEqual : ∀ operation ∈ equal, operation.kind = .equal)
    (hFits : pending.Fits)
    (hScript :
      Script old new
        (equal.toList ++ (pending.operations ++ operations))
        start stop) :
    Course old new (segmentsFrom equal pending operations)
      start stop := by
  induction operations generalizing equal pending start with
  | nil =>
      obtain ⟨place, hFirst, hLast⟩ := leads_append.mp hScript
      rw [List.append_nil] at hLast
      exact leads_append.mpr ⟨place, course_ofOperation hFirst,
        Pending.course_segments hFits hLast⟩
  | cons operation operations ih =>
      have hNone : Pending.Fits {} := ⟨nofun, nofun⟩
      cases hKind : operation.kind with
      | equal =>
          simp only [segmentsFrom, hKind]
          have hJoin :
              ∀ first ∈ some (Pending.join operation equal),
                first.kind = .equal := by
            intro first hMem
            cases hMem
            exact Pending.kind_join hKind hEqual
          cases equal with
          | none =>
              rw [Option.toList_none, List.nil_append]
                at hScript
              obtain ⟨place, hFirst, hRest⟩ :=
                leads_append.mp hScript
              exact leads_append.mpr
                ⟨place, Pending.course_segments hFits hFirst,
                  ih (.inr rfl) hJoin hNone hRest⟩
          | some first =>
              rcases hState with hState | rfl
              · cases hState
              · exact ih (.inr rfl) hJoin hNone
                  (script_merge
                    ((hEqual first rfl).trans hKind.symm)
                    hScript)
      | delete =>
          simp only [segmentsFrom, hKind]
          obtain ⟨place, hFirst, hRest⟩ :=
            leads_append.mp hScript
          refine leads_append.mpr
            ⟨place, course_ofOperation hFirst,
              ih (.inl rfl) nofun ⟨?_, hFits.inserted⟩
                (Pending.script_join_deleted hFits hKind
                  hRest)⟩
          intro first hMem
          cases hMem
          exact Pending.kind_join hKind hFits.deleted
      | insert =>
          simp only [segmentsFrom, hKind]
          obtain ⟨place, hFirst, hRest⟩ :=
            leads_append.mp hScript
          refine leads_append.mpr
            ⟨place, course_ofOperation hFirst,
              ih (.inl rfl) nofun ⟨hFits.deleted, ?_⟩ ?_⟩
          · intro first hMem
            cases hMem
            exact Pending.kind_join hKind hFits.inserted
          · simpa [Pending.operations] using
              Pending.script_join_inserted hFits hKind hRest

theorem course_segments
    {operations : List Operation}
    (hScript : Script old new operations start stop) :
    Course old new (segments operations) start stop :=
  course_segmentsFrom (.inl rfl) nofun ⟨nofun, nofun⟩ hScript

------------------------------------------------------------
-- Context
------------------------------------------------------------

namespace Segment.Step

variable {segment : Segment}
variable {count : Nat}

/- Equal lines lead below them. -/
theorem equal
    {i j length : Nat}
    (hPos : 0 < length)
    (hCommon : Common old new start length)
    (hOld : i = start.old)
    (hNew : j = start.new) :
    Segment.Step old new ⟨true, i, length, j, length⟩ start
      (start.below length length) :=
  ⟨Nat.add_pos_left hPos _, fun _ => hOld, fun _ => hNew,
    fun _ => ⟨rfl, hCommon⟩, rfl⟩

/- There is no other way for equal lines to lead anywhere. -/
theorem exists_of_isEqual
    (hStep : segment.Step old new start stop)
    (hEqual : segment.isEqual = true) :
    ∃ length,
      segment = ⟨true, start.old, length, start.new, length⟩ ∧
        0 < length ∧ Common old new start length ∧
        stop = start.below length length := by
  rcases segment with ⟨isEqual, first, length, first', length'⟩
  cases hEqual
  obtain ⟨hPos, hOld, hNew, hCommon, hStop⟩ := hStep
  dsimp only at hPos hOld hNew hCommon hStop
  obtain ⟨rfl, hLines⟩ := hCommon rfl
  have hLength : 0 < length := by omega
  obtain rfl := hOld hLength
  obtain rfl := hNew hLength
  exact ⟨length, rfl, hLength, hLines, hStop⟩

/- Without its first equal lines, a segment starts later. -/
theorem keepLast
    (hStep : segment.Step old new start stop)
    (hCount : 0 < count) :
    ∃ skipped,
      Common old new start skipped ∧
        (segment.keepLast count).Step old new
          (start.below skipped skipped) stop := by
  cases hEqual : segment.isEqual with
  | false =>
      refine ⟨0, fun i hi => absurd hi (Nat.not_lt_zero i), ?_⟩
      simpa [Segment.keepLast, hEqual] using hStep
  | true =>
      obtain ⟨length, rfl, hPos, hCommon, rfl⟩ :=
        hStep.exists_of_isEqual hEqual
      obtain ⟨kept, hKept⟩ :
          ∃ kept, length = length - count + kept :=
        ⟨length - (length - count), by omega⟩
      have hKeptPos : 0 < kept := by omega
      simp only [Segment.keepLast, if_true]
      generalize length - count = skipped at hKept ⊢
      subst hKept
      obtain ⟨hFirst, hLast⟩ := common_add_iff.mp hCommon
      rw [Nat.add_sub_cancel_left, ← Place.below_below]
      exact ⟨skipped, hFirst, equal hKeptPos hLast rfl rfl⟩

/- Without its last equal lines, a segment stops earlier. -/
theorem keepFirst
    (hStep : segment.Step old new start stop)
    (hCount : 0 < count) :
    ∃ place left,
      (segment.keepFirst count).Step old new start place ∧
        Common old new place left ∧
        stop = place.below left left := by
  cases hEqual : segment.isEqual with
  | false =>
      refine ⟨stop, 0, ?_,
        fun i hi => absurd hi (Nat.not_lt_zero i), rfl⟩
      simpa [Segment.keepFirst, hEqual] using hStep
  | true =>
      obtain ⟨length, rfl, hPos, hCommon, rfl⟩ :=
        hStep.exists_of_isEqual hEqual
      obtain ⟨left, hLeft⟩ :
          ∃ left, length = min count length + left :=
        ⟨length - min count length, by omega⟩
      have hKeptPos : 0 < min count length := by omega
      simp only [Segment.keepFirst, if_true]
      generalize min count length = kept at hLeft hKeptPos ⊢
      subst hLeft
      obtain ⟨hFirst, hLast⟩ := common_add_iff.mp hCommon
      rw [← Place.below_below]
      exact ⟨_, left, equal hKeptPos hFirst rfl rfl, hLast, rfl⟩

/- A long equal segment is divided into its two ends. -/
theorem divide
    (hStep : segment.Step old new start stop)
    (hEqual : segment.isEqual = true)
    (hCount : 0 < count)
    (hLength : 2 * count < segment.oldLength) :
    ∃ place skipped,
      (segment.keepFirst count).Step old new start place ∧
        Common old new place skipped ∧
        (segment.keepLast count).Step old new
          (place.below skipped skipped) stop := by
  obtain ⟨length, rfl, hPos, hCommon, rfl⟩ :=
    hStep.exists_of_isEqual hEqual
  dsimp only at hLength
  obtain ⟨skipped, rfl⟩ :
      ∃ skipped, length = count + (skipped + count) :=
    ⟨length - 2 * count, by omega⟩
  obtain ⟨hFirst, hRest⟩ := common_add_iff.mp hCommon
  obtain ⟨hSkipped, hLast⟩ := common_add_iff.mp hRest
  have hMin : min count (count + (skipped + count)) = count :=
    Nat.min_eq_left (Nat.le_add_right count _)
  have hOffset :
      count + (skipped + count) - count = count + skipped := by
    omega
  have hKept :
      count + (skipped + count) - (count + skipped) = count := by
    omega
  simp only [Segment.keepFirst, Segment.keepLast, if_true,
    hMin, hOffset, hKept, ← Place.below_below]
  refine ⟨_, skipped, equal hCount hFirst rfl rfl, hSkipped,
    equal hCount hLast ?_ ?_⟩
  · exact (Nat.add_assoc _ _ _).symm
  · exact (Nat.add_assoc _ _ _).symm

end Segment.Step

section Course

variable {segments : List Segment}
variable {count : Nat}

theorem course_modifyHead
    (hCourse : Course old new segments start stop)
    (hCount : 0 < count) :
    ∃ skipped,
      Common old new start skipped ∧
        Course old new
          (segments.modifyHead (Segment.keepLast count))
          (start.below skipped skipped) stop := by
  cases segments with
  | nil =>
      exact ⟨0, fun i hi => absurd hi (Nat.not_lt_zero i),
        hCourse⟩
  | cons segment segments =>
      obtain ⟨place, hStep, hRest⟩ := hCourse
      obtain ⟨skipped, hSkipped, hKept⟩ := hStep.keepLast hCount
      exact ⟨skipped, hSkipped, place, hKept, hRest⟩

theorem course_modifyLast
    (hCourse : Course old new segments start stop)
    (hCount : 0 < count) :
    ∃ place left,
      Course old new
          (modifyLast (Segment.keepFirst count) segments) start
          place ∧
        Common old new place left ∧
        stop = place.below left left := by
  fun_induction modifyLast (Segment.keepFirst count) segments
    generalizing start with
  | case1 =>
      exact ⟨stop, 0, hCourse,
        fun i hi => absurd hi (Nat.not_lt_zero i), rfl⟩
  | case2 segment =>
      obtain ⟨place, left, hKept, hLeft, hStop⟩ :=
        Segment.Step.keepFirst (leads_singleton.mp hCourse)
          hCount
      exact ⟨place, left, leads_singleton.mpr hKept, hLeft,
        hStop⟩
  | case3 segment rest _ ih =>
      obtain ⟨first, hStep, hRest⟩ := hCourse
      obtain ⟨place, left, hKept, hLeft, hStop⟩ := ih hRest
      exact ⟨place, left, ⟨first, hStep, hKept⟩, hLeft, hStop⟩

end Course

------------------------------------------------------------
-- Hunks
------------------------------------------------------------

/-
  Whether hunks with the common lines between them lead from
  one place to another.
-/
inductive Covers
    (old new : Array Text) :
    List Hunk → (start stop : Place) → Prop
  | rest
      {start : Place}
      {count : Nat}
      (common : Common old new start count) :
      Covers old new [] start (start.below count count)
  | hunk
      {start place stop : Place}
      {count : Nat}
      {hunk : Hunk}
      {hunks : List Hunk}
      (common : Common old new start count)
      (nonempty : hunk ≠ [])
      (course :
        Course old new hunk (start.below count count) place)
      (behind : Covers old new hunks place stop) :
      Covers old new (hunk :: hunks) start stop

theorem Covers.ne_nil
    {hunks : List Hunk}
    (hCovers : Covers old new hunks start stop) :
    ∀ hunk ∈ hunks, hunk ≠ [] := by
  induction hCovers with
  | rest => exact nofun
  | hunk _ hNe _ _ ih =>
      exact List.forall_mem_cons.mpr ⟨hNe, ih⟩

/- Segments that say nothing lead over common lines. -/
theorem common_of_isQuiet
    {hunk : Hunk}
    (hCourse : Course old new hunk start stop)
    (hQuiet : isQuiet hunk = true) :
    ∃ count,
      Common old new start count ∧
        stop = start.below count count := by
  match hunk with
  | [] =>
      exact ⟨0, fun i hi => absurd hi (Nat.not_lt_zero i),
        hCourse.symm⟩
  | [segment] =>
      obtain ⟨length, -, -, hCommon, hStop⟩ :=
        (leads_singleton.mp hCourse).exists_of_isEqual hQuiet
      exact ⟨length, hCommon, hStop⟩

/-
  Groups of segments cover what the segments do.  Above the
  current hunk are the lines between it and the hunk before.
-/
theorem covers_group
    {current : Hunk}
    {segments : List Segment}
    {count left : Nat}
    {place last : Place}
    (hSkipped : Common old new start count)
    (hCurrent :
      Course old new current.reverse (start.below count count)
        place)
    (hSegments : Course old new segments place last)
    (hLeft : Common old new last left) :
    Covers old new (group current segments) start
      (last.below left left) := by
  induction segments generalizing current start count place with
  | nil =>
      obtain rfl : place = last := hSegments
      unfold group
      split
      · rename_i hQuiet
        have hReverse : isQuiet current.reverse = true := by
          match current, hQuiet with
          | [], hQuiet => exact hQuiet
          | [_], hQuiet => exact hQuiet
        obtain ⟨more, hMore, rfl⟩ :=
          common_of_isQuiet hCurrent hReverse
        have hCommon :=
          common_add_iff.mpr
            ⟨hSkipped, common_add_iff.mpr ⟨hMore, hLeft⟩⟩
        have hRest := Covers.rest hCommon
        simpa [Nat.add_assoc] using hRest
      · rename_i hLoud
        refine .hunk hSkipped ?_ hCurrent (.rest hLeft)
        intro hEmpty
        rw [List.reverse_eq_nil_iff.mp hEmpty] at hLoud
        exact hLoud rfl
  | cons segment segments ih =>
      obtain ⟨next, hStep, hRest⟩ := hSegments
      unfold group
      split
      · rename_i hLong
        obtain ⟨middle, skipped, hFirst, hBetween, hLast⟩ :=
          hStep.divide hLong.1 (Nat.zero_lt_succ 2) hLong.2
        rw [List.reverse_cons]
        exact .hunk hSkipped (by simp)
          (leads_append.mpr
            ⟨place, hCurrent, leads_singleton.mpr hFirst⟩)
          (ih hBetween (leads_singleton.mpr hLast) hRest)
      · refine ih hSkipped ?_ hRest
        rw [List.reverse_cons]
        exact leads_append.mpr
          ⟨place, hCurrent, leads_singleton.mpr hStep⟩

theorem covers_hunks
    {segments : List Segment}
    (hCourse : Course old new segments start stop) :
    Covers old new (hunks segments) start stop := by
  obtain ⟨skipped, hSkipped, hHead⟩ :=
    course_modifyHead hCourse (Nat.zero_lt_succ 2)
  obtain ⟨last, left, hLast, hLeft, rfl⟩ :=
    course_modifyLast hHead (Nat.zero_lt_succ 2)
  exact covers_group hSkipped rfl hLast hLeft

/- The hunks of two texts cover both of them. -/
theorem covers_compare :
    Covers old new (compare old new) ⟨0, 0⟩
      ⟨old.size, new.size⟩ :=
  covers_hunks (course_segments (script_compact script_script))

end Diff

end NotifyScope
