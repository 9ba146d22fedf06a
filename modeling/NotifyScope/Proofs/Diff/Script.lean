import NotifyScope.Proofs.Diff.Meeting

/-
  Scripts that lead from one place of two texts to another.
  Each operation starts where the one above it stops: equal
  lines and deletions at their old line, equal lines and
  insertions at their new line.  The other line of a deletion
  or an insertion does not matter.  The script that is found
  for two texts leads from their start to their end.

  Key definitions include:
    * `Diff.Place`
    * `Diff.Common`
    * `Diff.Leads`
    * `Diff.Operation.Step`

  Main declarations:
    * `Diff.leads_append`
    * `Diff.Box.script_ends`
    * `Diff.script_search`
    * `Diff.script_script`
-/

namespace NotifyScope

namespace Diff

------------------------------------------------------------
-- Places
------------------------------------------------------------

/- A place in two texts, with the lines above it counted. -/
@[ext] structure Place where
  old : Nat
  new : Nat
deriving DecidableEq, Repr

namespace Place

/- The place that is so many lines further down. -/
def below
    (place : Place)
    (old new : Nat) : Place :=
  { old := place.old + old, new := place.new + new }

@[simp] theorem below_old
    (place : Place)
    (old new : Nat) :
    (place.below old new).old = place.old + old := rfl

@[simp] theorem below_new
    (place : Place)
    (old new : Nat) :
    (place.below old new).new = place.new + new := rfl

@[simp] theorem below_zero
    (place : Place) :
    place.below 0 0 = place := rfl

@[simp] theorem below_below
    (place : Place)
    (old new old' new' : Nat) :
    (place.below old new).below old' new' =
      place.below (old + old') (new + new') := by
  simp [below, Nat.add_assoc]

end Place

/- Whether texts have lines in common from a place on. -/
def Common
    (old new : Array Text)
    (place : Place)
    (count : Nat) : Prop :=
  ∀ i < count, old[place.old + i]? = new[place.new + i]?

section Common

variable {old new : Array Text}
variable {place : Place}

theorem common_add_iff
    {count more : Nat} :
    Common old new place (count + more) ↔
      Common old new place count ∧
        Common old new (place.below count count) more := by
  constructor
  · intro hCommon
    refine ⟨fun i hi => hCommon i (by omega), ?_⟩
    intro i hi
    have hLine := hCommon (count + i) (by omega)
    simpa [Nat.add_assoc] using hLine
  · rintro ⟨hFirst, hRest⟩ i hi
    by_cases hCount : i < count
    · exact hFirst i hCount
    · have hLine := hRest (i - count) (by omega)
      simp only [Place.below_old, Place.below_new] at hLine
      rwa [show place.old + count + (i - count) =
          place.old + i by omega,
        show place.new + count + (i - count) =
          place.new + i by omega] at hLine

theorem common_prefixLength
    (count i j : Nat) :
    Common old new ⟨i, j⟩ (prefixLength old new count i j) := by
  induction count generalizing i j with
  | zero => exact fun i hi => absurd hi (Nat.not_lt_zero i)
  | succ count ih =>
      unfold prefixLength
      split
      · rename_i hSame
        rw [Nat.add_comm]
        refine common_add_iff.mpr ⟨?_, ih (i + 1) (j + 1)⟩
        intro k hk
        obtain rfl : k = 0 := by omega
        exact hSame
      · exact fun i hi => absurd hi (Nat.not_lt_zero i)

theorem common_suffixLength
    {count i j : Nat}
    (hOld : count ≤ i)
    (hNew : count ≤ j) :
    let length := suffixLength old new count i j
    Common old new ⟨i - length, j - length⟩ length := by
  induction count generalizing i j with
  | zero => exact fun i hi => absurd hi (Nat.not_lt_zero i)
  | succ count ih =>
      unfold suffixLength
      split
      · rename_i hSame
        have hRest := ih (i := i - 1) (j := j - 1)
          (by omega) (by omega)
        have hLe :=
          suffixLength_le old new count (i - 1) (j - 1)
        dsimp only at hRest ⊢
        generalize suffixLength old new count (i - 1) (j - 1) =
          length at hRest hLe ⊢
        refine common_add_iff.mpr ⟨?_, ?_⟩
        · rwa [show i - (length + 1) = i - 1 - length by omega,
            show j - (length + 1) = j - 1 - length by omega]
        · intro k hk
          obtain rfl : k = 0 := by omega
          simp only [Place.below_old, Place.below_new]
          rwa [show i - (length + 1) + length + 0 = i - 1 by
              omega,
            show j - (length + 1) + length + 0 = j - 1 by
              omega]
      · exact fun i hi => absurd hi (Nat.not_lt_zero i)

end Common

------------------------------------------------------------
-- Steps
------------------------------------------------------------

section Leads

variable {α : Type}
variable {Step : α → Place → Place → Prop}

/- Whether steps lead from one place to another. -/
def Leads
    (Step : α → Place → Place → Prop) :
    List α → (start stop : Place) → Prop
  | [], start, stop => start = stop
  | step :: rest, start, stop =>
      ∃ place, Step step start place ∧
        Leads Step rest place stop

theorem leads_append
    {front back : List α}
    {start stop : Place} :
    Leads Step (front ++ back) start stop ↔
      ∃ place, Leads Step front start place ∧
        Leads Step back place stop := by
  induction front generalizing start with
  | nil => simp [Leads]
  | cons step front ih =>
      simp only [List.cons_append, Leads, ih]
      constructor
      · rintro ⟨first, hStep, place, hFront, hBack⟩
        exact ⟨place, ⟨first, hStep, hFront⟩, hBack⟩
      · rintro ⟨place, ⟨first, hStep, hFront⟩, hBack⟩
        exact ⟨first, hStep, place, hFront, hBack⟩

theorem leads_singleton
    {step : α}
    {start stop : Place} :
    Leads Step [step] start stop ↔ Step step start stop := by
  simp [Leads]

end Leads

------------------------------------------------------------
-- Operations
------------------------------------------------------------

/-
  Whether an operation leads from one place to another.  It
  covers a line at least.
-/
inductive Operation.Step
    (old new : Array Text) :
    Operation → (start stop : Place) → Prop
  | equal
      {start : Place}
      {length : Nat}
      (pos : 0 < length)
      (common : Common old new start length) :
      Step old new ⟨.equal, start.old, start.new, length⟩
        start (start.below length length)
  | delete
      {start : Place}
      {line length : Nat}
      (pos : 0 < length) :
      Step old new ⟨.delete, start.old, line, length⟩
        start (start.below length 0)
  | insert
      {start : Place}
      {line length : Nat}
      (pos : 0 < length) :
      Step old new ⟨.insert, line, start.new, length⟩
        start (start.below 0 length)

section Steps

variable {old new : Array Text}
variable {start stop : Place}
variable {i j length : Nat}
variable (hPos : 0 < length)
include hPos

theorem step_equal
    (hCommon : Common old new start length)
    (hOld : i = start.old)
    (hNew : j = start.new)
    (hStop : stop = start.below length length) :
    Operation.Step old new ⟨.equal, i, j, length⟩ start
      stop := by
  subst hOld hNew hStop
  exact .equal hPos hCommon

theorem step_delete
    (hOld : i = start.old)
    (hStop : stop = start.below length 0) :
    Operation.Step old new ⟨.delete, i, j, length⟩ start
      stop := by
  subst hOld hStop
  exact .delete hPos

theorem step_insert
    (hNew : j = start.new)
    (hStop : stop = start.below 0 length) :
    Operation.Step old new ⟨.insert, i, j, length⟩ start
      stop := by
  subst hNew hStop
  exact .insert hPos

end Steps

/- Whether operations lead from one place to another. -/
abbrev Script
    (old new : Array Text) :
    List Operation → (start stop : Place) → Prop :=
  Leads (Operation.Step old new)

------------------------------------------------------------
-- Searching
------------------------------------------------------------

variable {old new : Array Text}

/- An operation leads on, even if it covers no line. -/
theorem script_operation
    {kind : Kind}
    {i j length : Nat}
    {start stop : Place}
    (hZero : length = 0 → start = stop)
    (hStep :
      0 < length →
        Operation.Step old new ⟨kind, i, j, length⟩
          start stop) :
    Script old new (operation kind i j length) start stop := by
  unfold operation
  split
  · rename_i hLength
    exact hZero hLength
  · rename_i hLength
    exact leads_singleton.mpr
      (hStep (Nat.pos_of_ne_zero hLength))

theorem script_equal
    {i j length : Nat}
    (hCommon : Common old new ⟨i, j⟩ length) :
    Script old new (operation .equal i j length)
      ⟨i, j⟩ ⟨i + length, j + length⟩ :=
  script_operation (fun hZero => by rw [hZero]; rfl)
    fun hPos => .equal hPos hCommon

/- Replacing lines leads below all of them. -/
theorem script_replaced
    (i j count more : Nat) :
    Script old new
      (operation .delete i j count ++ operation .insert i j more)
      ⟨i, j⟩ ⟨i + count, j + more⟩ :=
  leads_append.mpr
    ⟨⟨i + count, j⟩,
      script_operation (fun hZero => by rw [hZero]; rfl)
        fun hPos => step_delete hPos rfl rfl,
      script_operation (fun hZero => by rw [hZero]; rfl)
        fun hPos => step_insert hPos rfl rfl⟩

namespace Box

/- The place above a box. -/
def start
    (box : Box) : Place :=
  { old := box.oldStart, new := box.newStart }

/- The place below a box. -/
def stop
    (box : Box) : Place :=
  { old := box.oldStop, new := box.newStop }

variable (old new : Array Text)
variable (box : Box)

/- A box without the common lines that it starts with. -/
def belowHead : Box :=
  let head := box.prefixFrom old new 0 0
  { box with
    oldStart := box.oldStart + head
    newStart := box.newStart + head }

/- A box without the common lines that it ends with. -/
def aboveTail : Box :=
  let tail := box.suffixFrom old new 0 0
  { box with
    oldStop := box.oldStop - tail
    newStop := box.newStop - tail }

variable {old new : Array Text}
variable {box : Box}
variable (hWithin : box.Within old new)
include hWithin

theorem Within.within_belowHead :
    (box.belowHead old new).Within old new := by
  obtain ⟨hOld, hNew, hOldSize, hNewSize⟩ := hWithin
  have hWidth := (box.ahead old new).length_le_width 0 0
  have hHeight := (box.ahead old new).length_le_height 0 0
  simp only [ahead, width, height] at hWidth hHeight
  constructor <;> simp only [belowHead] <;> omega

theorem Within.within_aboveTail :
    (box.aboveTail old new).Within old new := by
  obtain ⟨hOld, hNew, hOldSize, hNewSize⟩ := hWithin
  have hWidth := (box.behind old new).length_le_width 0 0
  have hHeight := (box.behind old new).length_le_height 0 0
  simp only [behind, width, height] at hWidth hHeight
  constructor <;> simp only [aboveTail] <;> omega

omit hWithin in
theorem script_head :
    Script old new
      (operation .equal box.oldStart box.newStart
        (box.prefixFrom old new 0 0))
      box.start (box.belowHead old new).start :=
  script_equal (common_prefixLength _ _ _)

theorem script_tail :
    Script old new
      (operation .equal (box.aboveTail old new).oldStop
        (box.aboveTail old new).newStop
        (box.suffixFrom old new 0 0))
      (box.aboveTail old new).stop box.stop := by
  obtain ⟨hOld, hNew, -, -⟩ := hWithin
  have hWidth := (box.behind old new).length_le_width 0 0
  have hHeight := (box.behind old new).length_le_height 0 0
  simp only [behind, width, height] at hWidth hHeight
  have hCommon :
      Common old new (box.aboveTail old new).stop
        (box.suffixFrom old new 0 0) :=
    common_suffixLength
      (Nat.le_trans (Nat.min_le_left _ _)
        (Nat.sub_le_sub_right (Nat.sub_le _ _) 0))
      (Nat.le_trans (Nat.min_le_right _ _)
        (Nat.sub_le_sub_right (Nat.sub_le _ _) 0))
  have hStop :
      box.stop =
        (box.aboveTail old new).stop.below
          (box.suffixFrom old new 0 0)
          (box.suffixFrom old new 0 0) := by
    ext
    · simp only [stop, aboveTail, Place.below]
      omega
    · simp only [stop, aboveTail, Place.below]
      omega
  rw [hStop]
  exact script_equal hCommon

/- Replacing all lines of a box leads from start to stop. -/
theorem script_replace :
    Script old new
      (operation .delete box.oldStart box.newStart box.width ++
        operation .insert box.oldStart box.newStart box.height)
      box.start box.stop := by
  have hReplaced :=
    @script_replaced old new box.oldStart box.newStart
      box.width box.height
  rwa [width, height, Nat.add_sub_cancel' hWithin.old_le,
    Nat.add_sub_cancel' hWithin.new_le] at hReplaced

/- What is common at the ends can be put around a script. -/
theorem script_ends
    {middle : List Operation}
    (hMiddle :
      Script old new middle (box.belowHead old new).start
        ((box.belowHead old new).aboveTail old new).stop) :
    Script old new
      (operation .equal box.oldStart box.newStart
          (box.prefixFrom old new 0 0) ++
        middle ++
        operation .equal
          ((box.belowHead old new).aboveTail old new).oldStop
          ((box.belowHead old new).aboveTail old new).newStop
          ((box.belowHead old new).suffixFrom old new 0 0))
      box.start box.stop :=
  leads_append.mpr
    ⟨_, leads_append.mpr ⟨_, script_head, hMiddle⟩,
      script_tail hWithin.within_belowHead⟩

end Box

/- The script for a box leads from its start to its stop. -/
theorem script_search
    {fuel : Nat}
    {box : Box}
    (hWithin : box.Within old new) :
    Script old new (search old new fuel box) box.start
      box.stop := by
  induction fuel generalizing box with
  | zero =>
      unfold search
      refine Box.script_ends hWithin ?_
      have hReplace :=
        Box.script_replace
          hWithin.within_belowHead.within_aboveTail
      split
      · exact hReplace
      · exact hReplace
  | succ fuel ih =>
      unfold search
      refine Box.script_ends hWithin ?_
      have hCore := hWithin.within_belowHead.within_aboveTail
      have hReplace := Box.script_replace hCore
      split
      · exact hReplace
      · split
        · rename_i hFuel hSplit
          cases hFuel
          obtain ⟨hOldStart, hOldStop, hNewStart, hNewStop⟩ :=
            within_of_split? hCore hSplit
          exact leads_append.mpr ⟨_,
            ih ⟨hOldStart, hNewStart,
              Nat.le_trans hOldStop hCore.old_size,
              Nat.le_trans hNewStop hCore.new_size⟩,
            ih ⟨hOldStop, hNewStop, hCore.old_size,
              hCore.new_size⟩⟩
        · exact hReplace

/- The script for two texts leads from start to end. -/
theorem script_script :
    Script old new (script old new) ⟨0, 0⟩
      ⟨old.size, new.size⟩ :=
  script_search
    { old_le := Nat.zero_le _
      new_le := Nat.zero_le _
      old_size := Nat.le_refl _
      new_size := Nat.le_refl _ }

end Diff

end NotifyScope
