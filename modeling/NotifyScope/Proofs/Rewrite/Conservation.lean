import Mathlib.Tactic.Linarith
import Mathlib.Tactic.Ring
import NotifyScope.Proofs.Document.Outcome
import NotifyScope.Proofs.Method.Frame
import NotifyScope.Proofs.Rewrite.UserLines

/-
  What a rewrite adds and takes away.  Every line gets a
  weight that white space and names do not show in, and the
  weight of all lines changes by that of the wrappers and
  markers that were put in, less that of the wrappers and
  closing lines that were taken out.  Counting each line once
  gives the number of lines, and weighing it by its braces
  gives their balance.

  Key definitions include:
    * `Lines.total`
    * `Rule.Weighs`
    * `Work.repairs`
    * `Work.charge`

  Main declarations:
    * `Repair.total_settle`
    * `Method.total_rewriteAll`
    * `Rule.apply_conserves`
-/

------------------------------------------------------------
-- Weights of Lines
------------------------------------------------------------

namespace NotifyScope

namespace Lines

/- The weights of all lines together. -/
def total
    (weigh : Line → Int)
    (lines : Lines) : Int :=
  (lines.map weigh).sum

/- The opening braces of all lines less the closing ones. -/
def balance
    (lines : Lines) : Int :=
  total Line.braceBalance lines

variable {weigh : Line → Int}

@[simp] theorem total_cons
    (line : Line)
    (lines : Lines) :
    total weigh (line :: lines) =
      weigh line + total weigh lines := by
  simp [total]

@[simp] theorem total_append
    (left right : Lines) :
    total weigh (left ++ right) =
      total weigh left + total weigh right := by
  simp [total]

/- Lines that weigh one each. -/
theorem total_one
    (lines : Lines) :
    total (fun _ => 1) lines = lines.length := by
  simp [total]

/- A change of every line that keeps its weight. -/
theorem total_mapIdx
    {change : Nat → Line → Line}
    (lines : Lines)
    (hChange : ∀ i line,
      weigh (change i line) = weigh line) :
    total weigh (lines.mapIdx change) =
      total weigh lines := by
  induction lines generalizing change with
  | nil => rfl
  | cons line lines ih =>
      rw [List.mapIdx_cons, total_cons, total_cons, hChange,
        ih fun i other => hChange (i + 1) other]

theorem total_map
    {change : Line → Line}
    (lines : Lines)
    (hChange : ∀ line, weigh (change line) = weigh line) :
    total weigh (lines.map change) = total weigh lines := by
  unfold total
  rw [List.map_map]
  congr 1
  exact List.map_congr_left fun line _ => hChange line

theorem total_set
    {line : Line}
    (lines : Lines)
    (i : Nat)
    (hLine : weigh line = weigh (get lines i)) :
    total weigh (lines.set i line) = total weigh lines := by
  induction lines generalizing i with
  | nil => rfl
  | cons first lines ih =>
      cases i with
      | zero =>
          rw [List.set_cons_zero, total_cons, total_cons,
            hLine, get_cons_zero]
      | succ i =>
          rw [List.set_cons_succ, total_cons, total_cons,
            ih i hLine]

/- Taking a line out takes its weight away. -/
theorem total_eraseIdx
    {lines : Lines}
    {i : Nat}
    (hLess : i < lines.length) :
    total weigh (lines.eraseIdx i) =
      total weigh lines - weigh (get lines i) := by
  have hWhole :=
    congrArg (total weigh) (List.take_append_drop i lines)
  rw [total_append, List.drop_eq_getElem_cons hLess,
    total_cons, ← get_eq_getElem hLess] at hWhole
  rw [List.eraseIdx_eq_take_drop_succ, total_append]
  linarith

/- Putting a line in adds its weight. -/
theorem total_insertIdx
    (line : Line)
    {lines : Lines}
    {i : Nat}
    (hLe : i ≤ lines.length) :
    total weigh (lines.insertIdx i line) =
      total weigh lines + weigh line := by
  induction lines generalizing i with
  | nil =>
      cases Nat.le_zero.mp hLe
      rw [List.insertIdx_zero, total_cons, add_comm]
  | cons first lines ih =>
      cases i with
      | zero => rw [List.insertIdx_zero, total_cons, add_comm]
      | succ i =>
          rw [List.insertIdx_succ_cons, total_cons,
            total_cons, ih (Nat.le_of_succ_le_succ hLe)]
          ring

end Lines

------------------------------------------------------------
-- Weights for a Rule
------------------------------------------------------------

namespace Rule

/-
  A weight in which neither white space around a line nor a
  renaming shows, and that both closing lines have.
-/
structure Weighs
    (rule : Rule)
    (weigh : Line → Int) : Prop where
  trim : ∀ left right : Line,
    Text.trim left = Text.trim right →
      weigh left = weigh right
  renamed : ∀ line, weigh (rule.renamed line) = weigh line
  legacyClose : weigh rule.legacyClose = weigh rule.wrapClose

/- The line that is put above a declaration, if any is. -/
def markerLine
    (rule : Rule) : Line :=
  rule.marker.getD []

variable (rule : Rule)

/- Every line counts as one. -/
theorem weighs_one :
    rule.Weighs fun _ => 1 :=
  ⟨fun _ _ _ => rfl, fun _ => rfl, rfl⟩

/- A line counts as what it adds to the depth of braces. -/
theorem weighs_braceBalance :
    rule.Weighs Line.braceBalance where
  trim _ _ := Line.braceBalance_eq_of_trim_eq
  renamed := rule.braceBalance_renamed
  legacyClose := by
    rw [rule.legacyClose_balance, rule.wrapClose_balance]

namespace Weighs

variable {rule : Rule}
variable {weigh : Line → Int}

theorem append_left
    (hWeighs : rule.Weighs weigh)
    {blank : Text}
    (line : Line)
    (hBlank : Text.allBlank blank = true) :
    weigh (blank ++ line) = weigh line :=
  hWeighs.trim _ _ (Text.trim_append_left line hBlank)

theorem of_opensWrapper
    (hWeighs : rule.Weighs weigh)
    {line : Line}
    (hOpens : rule.opensWrapper line = true) :
    weigh line = weigh rule.wrapOpen := by
  apply hWeighs.trim
  rw [opensWrapper_iff.mp hOpens, rule.wrapOpen_trim]

theorem of_closesEither
    (hWeighs : rule.Weighs weigh)
    {line : Line}
    (hCloses : rule.closesEither line = true) :
    weigh line = weigh rule.wrapClose := by
  rcases closesEither_iff.mp hCloses with hClose | hLegacy
  · apply hWeighs.trim
    rw [hClose, rule.wrapClose_trim]
  · rw [← hWeighs.legacyClose]
    apply hWeighs.trim
    rw [hLegacy, rule.legacyClose_trim]

end Weighs

end Rule

------------------------------------------------------------
-- What Was Done
------------------------------------------------------------

/- The report of a repair, if an event tells of one. -/
def Event.report? : Event → Option Repair.Report
  | .repaired report => some report
  | _ => none

namespace Work

/- The reports of the repairs that were made. -/
def repairs
    (work : Work) : List Repair.Report :=
  work.trace.filterMap Event.report?

/- The wrappers that the repairs took out. -/
def collapsed
    (work : Work) : Nat :=
  (work.repairs.map Repair.Report.collapsed).sum

/- The surplus closing lines that the repairs took out. -/
def dropped
    (work : Work) : Nat :=
  (work.repairs.map Repair.Report.dropped).sum

/-
  The weight of what was put in, less that of what was taken
  out: whole wrappers, closing lines and markers.
-/
def charge
    (rule : Rule)
    (weigh : Line → Int)
    (work : Work) : Int :=
  (work.counts.methodsWrapped - work.collapsed) *
      (weigh rule.wrapOpen + weigh rule.wrapClose) -
    work.dropped * weigh rule.wrapClose +
    work.counts.markersInserted * weigh rule.markerLine

/- Work in two parts. -/
theorem charge_add
    (rule : Rule)
    (weigh : Line → Int)
    (before after : Work)
    (lines : Lines) :
    charge rule weigh
        { lines
          counts := before.counts + after.counts
          trace := before.trace ++ after.trace } =
      charge rule weigh before +
        charge rule weigh after := by
  have hWrapped :
      (before.counts + after.counts).methodsWrapped =
        before.counts.methodsWrapped +
          after.counts.methodsWrapped := rfl
  have hMarkers :
      (before.counts + after.counts).markersInserted =
        before.counts.markersInserted +
          after.counts.markersInserted := rfl
  unfold charge collapsed dropped repairs
  simp only [List.filterMap_append, List.map_append,
    List.sum_append, hWrapped, hMarkers]
  push_cast
  ring

/- Work that is one repair. -/
theorem charge_ofRepair
    (rule : Rule)
    (weigh : Line → Int)
    (method : Method)
    (state : BodyState)
    (report : Repair.Report)
    (lines : Lines) :
    charge rule weigh
        { lines
          counts := .ofRepair report
          trace := [.method method state, .repaired report] } =
      -(report.collapsed *
          (weigh rule.wrapOpen + weigh rule.wrapClose) +
        report.dropped * weigh rule.wrapClose) := by
  simp [charge, collapsed, dropped, repairs,
    List.filterMap_cons, Event.report?, Counts.ofRepair]
  ring

end Work

------------------------------------------------------------
-- Repairs
------------------------------------------------------------

namespace Repair

variable {rule : Rule}
variable {weigh : Line → Int}
variable {start : Nat}
variable {lines next : Lines}

/- A wrapper that is collapsed takes both its lines along. -/
theorem total_collapse?
    (hWeighs : rule.Weighs weigh)
    (hCollapse : collapse? rule start lines = some next) :
    Lines.total weigh next =
      Lines.total weigh lines -
        (weigh rule.wrapOpen + weigh rule.wrapClose) := by
  rcases collapse?_eq_some_iff.mp hCollapse with
    ⟨_, first, pair, _, _, _, hPair, _, rfl⟩
  rcases Wrapper.stackedAt?_eq_some_iff.mp hPair with
    ⟨_, _, hOpens, _, hInner, _, hCloses, _⟩
  have hOrder := Block.lt_close? hInner
  have hLess := Block.close?_lt_length hInner
  have hOutdent :
      Lines.total weigh
          (Lines.outdent lines first pair.innerOpen
            pair.innerClose) =
        Lines.total weigh lines := by
    unfold Lines.outdent
    simp only
    split
    · apply Lines.total_mapIdx
      intro i line
      split
      · exact hWeighs.trim _ _
          (Line.trim_outdent line (Text.allBlank_leading _)
            (Text.allBlank_leading _))
      · rfl
    · rfl
  unfold collapsed
  rw [Lines.total_eraseIdx (by
      rw [List.length_eraseIdx, Lines.length_outdent]
      split <;> omega),
    Lines.total_eraseIdx (by
      rw [Lines.length_outdent]
      exact hLess),
    Lines.get_eraseIdx_of_lt _ hOrder,
    hWeighs.trim _ _ (Lines.trim_get_outdent ..),
    hWeighs.trim _ _ (Lines.trim_get_outdent ..),
    hWeighs.of_opensWrapper hOpens,
    hWeighs.of_closesEither hCloses, hOutdent]
  ring

/- A closing line that is dropped takes itself along. -/
theorem total_dropSurplus?
    (hWeighs : rule.Weighs weigh)
    (hDrop : dropSurplus? rule start lines = some next) :
    Lines.total weigh next =
      Lines.total weigh lines - weigh rule.wrapClose := by
  rcases dropSurplus?_eq_some_iff.mp hDrop with
    ⟨stop, last, hClose, _, hSurplus, rfl⟩
  have hCloses :=
    (Wrapper.surplusClose?_eq_some_iff.mp hSurplus).2.2.1
  rw [Lines.total_eraseIdx (Block.close?_lt_length hClose),
    hWeighs.of_closesEither hCloses]

/- A repair tells of all that it takes out. -/
theorem total_settle
    (hWeighs : rule.Weighs weigh)
    (start : Nat)
    (lines : Lines) :
    Lines.total weigh (settle rule start lines).1 =
      Lines.total weigh lines -
        (settle rule start lines).2.collapsed *
          (weigh rule.wrapOpen + weigh rule.wrapClose) -
        (settle rule start lines).2.dropped *
          weigh rule.wrapClose := by
  apply settle_induction (motive := fun before result =>
    Lines.total weigh result.1 =
      Lines.total weigh before -
        result.2.collapsed *
          (weigh rule.wrapOpen + weigh rule.wrapClose) -
        result.2.dropped * weigh rule.wrapClose)
  · intro before next hCollapse hNext
    simp only
    rw [hNext, total_collapse? hWeighs hCollapse]
    push_cast
    ring
  · intro before next _ hDrop hNext
    simp only
    rw [hNext, total_dropSurplus? hWeighs hDrop]
    push_cast
    ring
  · intro before _ _
    simp

/- An annotation has no weight of its own. -/
theorem total_normalize
    (hWeighs : rule.Weighs weigh)
    (start : Nat)
    (lines : Lines) :
    Lines.total weigh (normalize rule start lines).1 =
      Lines.total weigh lines := by
  unfold normalize
  split
  · rfl
  · apply Lines.total_mapIdx
    intro i line
    split
    · rename_i hTarget
      rw [Bool.and_eq_true] at hTarget
      rw [hWeighs.append_left _ (Text.allBlank_leading line),
        hWeighs.of_closesEither
          (Rule.closesEither_of_closesAnnotated hTarget.2)]
    · rfl

end Repair

------------------------------------------------------------
-- Methods
------------------------------------------------------------

namespace Method

variable {rule : Rule}
variable {weigh : Line → Int}
variable {method : Method}
variable {lines : Lines}

/- A body that is wrapped gets both lines of a wrapper. -/
theorem total_wrap
    (hWeighs : rule.Weighs weigh)
    (reindent : Bool)
    (lines : Lines)
    (hLess : method.start < method.stop)
    (hIndent : Text.allBlank method.indent = true)
    (hUnit : Text.allBlank method.unit = true) :
    Lines.total weigh (method.wrap rule reindent lines).1 =
      Lines.total weigh lines +
        (weigh rule.wrapOpen + weigh rule.wrapClose) := by
  have hDeep :
      Text.allBlank (method.indent ++ method.unit) =
        true := by
    simp [hIndent, hUnit]
  have hBody :
      Lines.total weigh
          (if reindent then
            (method.interior lines).map
              (Line.shift method.unit)
          else
            method.interior lines) =
        Lines.total weigh (method.interior lines) := by
    split
    · exact Lines.total_map _ fun line =>
        hWeighs.trim _ _ (Line.trim_shift line hUnit)
    · rfl
  unfold wrap
  simp only [Lines.total_append, Lines.total_cons, hBody,
    hWeighs.append_left _ hDeep]
  conv_rhs =>
    rw [← take_append_interior lines hLess]
  simp only [Lines.total_append]
  ring

theorem total_rewriteBody
    (hWeighs : rule.Weighs weigh)
    (reindent : Bool)
    (lines : Lines)
    (hLess : method.start < method.stop)
    (hIndent : Text.allBlank method.indent = true)
    (hUnit : Text.allBlank method.unit = true) :
    Lines.total weigh
        (method.rewriteBody rule reindent lines).lines =
      Lines.total weigh lines +
        (method.rewriteBody rule reindent lines).charge rule
          weigh := by
  have hRepair :
      Lines.total weigh (method.repair rule lines).1 =
        Lines.total weigh lines -
          (method.repair rule lines).2.collapsed *
            (weigh rule.wrapOpen + weigh rule.wrapClose) -
          (method.repair rule lines).2.dropped *
            weigh rule.wrapClose := by
    unfold repair
    simp only
    rw [Repair.total_normalize hWeighs,
      Repair.total_settle hWeighs]
  unfold rewriteBody
  cases method.bodyState rule lines with
  | unwrapped =>
      simp only
      rw [total_wrap hWeighs reindent lines hLess hIndent
        hUnit]
      simp [Work.charge, Work.collapsed, Work.dropped,
        Work.repairs, List.filterMap_cons, Event.report?]
  | canonical =>
      simp [Work.charge, Work.collapsed, Work.dropped,
        Work.repairs, List.filterMap_cons, Event.report?]
  | legacy =>
      simp only
      rw [hRepair, Work.charge_ofRepair]
      ring
  | doubled =>
      simp only
      rw [hRepair, Work.charge_ofRepair]
      ring

/- A declaration gains no more than its marker. -/
theorem total_renameDeclaration
    (hWeighs : rule.Weighs weigh)
    (hLe : method.start ≤ lines.length)
    (hIndent : Text.allBlank method.indent = true) :
    Lines.total weigh
        (method.renameDeclaration rule lines).1 =
      Lines.total weigh lines +
        (method.renameDeclaration rule
            lines).2.markerInserted.toNat *
          weigh rule.markerLine := by
  have hSet :
      Lines.total weigh
          (lines.set method.start
            (rule.renamed (Lines.get lines method.start))) =
        Lines.total weigh lines :=
    Lines.total_set lines _ (hWeighs.renamed _)
  unfold Rule.renamed at hSet
  unfold renameDeclaration Rule.markerLine
  cases rule.marker with
  | none => simp [hSet]
  | some marker =>
      simp only [Option.getD_some]
      unfold Lines.insertMarker
      split
      · simp [hSet]
      · rw [Lines.total_insertIdx _ (by
            rw [List.length_set]
            exact hLe),
          hSet, hWeighs.append_left _ hIndent]
        simp

theorem total_rewrite
    (hWeighs : rule.Weighs weigh)
    (reindent : Bool)
    (hSpans : Spans rule lines method.start method.stop)
    (hIndent : Text.allBlank method.indent = true)
    (hUnit : Text.allBlank method.unit = true) :
    Lines.total weigh
        (method.rewrite rule reindent lines).lines =
      Lines.total weigh lines +
        (method.rewrite rule reindent lines).charge rule
          weigh := by
  have hBody :=
    total_rewriteBody hWeighs reindent lines hSpans.lt
      hIndent hUnit
  have hStart :=
    hSpans.lt.trans (Block.close?_lt_length hSpans.closes)
  have hLength :
      method.start <
        (method.rewriteBody rule reindent
          lines).lines.length := by
    apply Lines.lt_length_of_filled
    apply Line.not_allBlank_of_braceBalance_ne
    rw [get_rewriteBody_of_le reindent hStart le_rfl,
      hSpans.braceBalance_start]
    decide
  have hCharge :=
    Work.charge_add rule weigh
      (method.rewriteBody rule reindent lines)
      { lines := []
        counts := .ofDeclaration
          (method.renameDeclaration rule
            (method.rewriteBody rule reindent
              lines).lines).2 }
      (method.renameDeclaration rule
        (method.rewriteBody rule reindent lines).lines).1
  simp only [List.append_nil] at hCharge
  unfold rewrite
  simp only
  rw [hCharge,
    total_renameDeclaration hWeighs hLength.le hIndent,
    hBody]
  simp [Work.charge, Work.collapsed, Work.dropped,
    Work.repairs, Counts.ofDeclaration]
  ring

/-
  The methods are rewritten from the last to the first, each
  in lines that still hold its own as they were found.
-/
theorem total_rewriteAll
    (hWeighs : rule.Weighs weigh)
    (reindent : Bool)
    (methods : List Method)
    (hOrder : methods.Pairwise fun earlier later =>
      earlier.stop < later.start)
    (hMethods : ∀ method ∈ methods,
      Spans rule lines method.start method.stop ∧
        Text.allBlank method.indent = true ∧
        Text.allBlank method.unit = true) :
    Lines.total weigh
        (rewriteAll rule reindent methods lines).lines =
      Lines.total weigh lines +
        (rewriteAll rule reindent methods lines).charge rule
          weigh := by
  induction methods with
  | nil =>
      simp [rewriteAll, Work.charge, Work.collapsed,
        Work.dropped, Work.repairs]
  | cons method methods ih =>
      rcases List.forall_mem_cons.mp hMethods with
        ⟨⟨hSpans, hIndent, hUnit⟩, hLater⟩
      have hBelow :=
        ih (List.pairwise_cons.mp hOrder).2 hLater
      have hMoved :=
        hSpans.of_get_eq fun i hi =>
          get_rewriteAll_of_le reindent hOrder
            (fun other hOther => (hLater other hOther).1) hi
      have hOwn :=
        total_rewrite hWeighs reindent hMoved hIndent hUnit
      have hStep :
          rewriteAll rule reindent (method :: methods)
              lines =
            { lines :=
                (method.rewrite rule reindent
                  (rewriteAll rule reindent methods
                    lines).lines).lines
              counts :=
                (rewriteAll rule reindent methods
                    lines).counts +
                  (method.rewrite rule reindent
                    (rewriteAll rule reindent methods
                      lines).lines).counts
              trace :=
                (rewriteAll rule reindent methods
                    lines).trace ++
                  (method.rewrite rule reindent
                    (rewriteAll rule reindent methods
                      lines).lines).trace } := rfl
      rw [hStep, Work.charge_add]
      simp only
      rw [hOwn, hBelow, add_assoc]

end Method

------------------------------------------------------------
-- Bodies
------------------------------------------------------------

namespace Work

/-
  Work on so many bodies: each was wrapped, in order, or
  repaired, and there is a report of every repair.
-/
structure Handles
    (work : Work)
    (bodies : Nat) : Prop where
  states :
    work.counts.methodsWrapped +
        work.counts.methodsCanonical +
        work.counts.methodsRepaired =
      bodies
  reports :
    work.repairs.length = work.counts.methodsRepaired

theorem Handles.add
    {before after : Work}
    {m n : Nat}
    (lines : Lines)
    (hBefore : before.Handles m)
    (hAfter : after.Handles n) :
    Handles
      { lines
        counts := before.counts + after.counts
        trace := before.trace ++ after.trace }
      (m + n) := by
  have hWrapped :
      (before.counts + after.counts).methodsWrapped =
        before.counts.methodsWrapped +
          after.counts.methodsWrapped := rfl
  have hCanonical :
      (before.counts + after.counts).methodsCanonical =
        before.counts.methodsCanonical +
          after.counts.methodsCanonical := rfl
  have hRepaired :
      (before.counts + after.counts).methodsRepaired =
        before.counts.methodsRepaired +
          after.counts.methodsRepaired := rfl
  constructor
  · rw [hWrapped, hCanonical, hRepaired, ← hBefore.states,
      ← hAfter.states]
    omega
  · rw [hRepaired, ← hBefore.reports, ← hAfter.reports]
    unfold repairs
    rw [List.filterMap_append, List.length_append]

end Work

namespace Method

theorem handles_rewrite
    (rule : Rule)
    (reindent : Bool)
    (method : Method)
    (lines : Lines) :
    (method.rewrite rule reindent lines).Handles 1 := by
  unfold rewrite rewriteBody
  cases method.bodyState rule lines <;> exact ⟨rfl, rfl⟩

theorem handles_rewriteAll
    (rule : Rule)
    (reindent : Bool)
    (methods : List Method)
    (lines : Lines) :
    (rewriteAll rule reindent methods lines).Handles
      methods.length := by
  induction methods with
  | nil => exact ⟨rfl, rfl⟩
  | cons method methods ih =>
      exact ih.add _ (handles_rewrite rule reindent method _)

end Method

------------------------------------------------------------
-- A Whole Rule
------------------------------------------------------------

namespace Rule

variable {rule : Rule} {layout : Layout} {lines : Lines}

/- What is told and counted before any body is rewritten. -/
def preface
    (rule : Rule)
    (layout : Layout)
    (survey : Survey)
    (lines : Lines) : Work :=
  { lines
    counts :=
      { methodsFound := survey.methods.length
        methodsSkipped := survey.unbalanced.length
        callSitesRenamed :=
          (Lines.renameAll rule
            (Method.rewriteAll rule layout.reindent
              survey.methods lines).lines).2 }
    trace := survey.trace }

/- It tells of no repair. -/
theorem repairs_preface
    (rule : Rule)
    (layout : Layout)
    (survey : Survey)
    (lines : Lines) :
    (rule.preface layout survey lines).repairs = [] := by
  unfold preface Work.repairs Survey.trace
  rw [List.filterMap_map, List.filterMap_eq_nil_iff]
  exact fun start _ => rfl

/- A rule that finds something works in two parts. -/
theorem rewrite_eq_preface
    {survey : Survey}
    (hFound : survey.isEmpty = false) :
    rule.rewrite layout survey lines =
      let work :=
        Method.rewriteAll rule layout.reindent survey.methods
          lines
      let before := rule.preface layout survey lines
      { lines := work.lines.map rule.renamed
        counts := before.counts + work.counts
        trace := before.trace ++ work.trace } := by
  unfold rewrite preface
  rw [hFound, if_neg Bool.false_ne_true]
  simp only [Lines.renameAll_fst]

theorem handles_rewrite
    (rule : Rule)
    (layout : Layout)
    (survey : Survey)
    (lines : Lines) :
    (rule.rewrite layout survey lines).Handles
      survey.methods.length := by
  cases hEmpty : survey.isEmpty with
  | true =>
      rw [rewrite_of_isEmpty hEmpty,
        (Survey.isEmpty_iff.mp hEmpty).1]
      exact ⟨rfl, rfl⟩
  | false =>
      have hPreface :
          (rule.preface layout survey lines).Handles 0 := by
        constructor
        · rfl
        · rw [repairs_preface]
          rfl
      rw [rewrite_eq_preface hEmpty]
      have hBoth :=
        hPreface.add
          ((Method.rewriteAll rule layout.reindent
            survey.methods lines).lines.map rule.renamed)
          (Method.handles_rewriteAll rule layout.reindent
            survey.methods lines)
      rw [Nat.zero_add] at hBoth
      exact hBoth

/- The work on the methods and the renaming behind it. -/
theorem total_rewrite
    {weigh : Line → Int}
    (hWeighs : rule.Weighs weigh)
    (hUnit : Text.allBlank layout.unit = true)
    (hConflict :
      (rule.survey layout lines).conflict = none) :
    Lines.total weigh
        (rule.rewrite layout (rule.survey layout lines)
          lines).lines =
      Lines.total weigh lines +
        (rule.rewrite layout (rule.survey layout lines)
          lines).charge rule weigh := by
  cases hEmpty : (rule.survey layout lines).isEmpty with
  | true =>
      rw [rewrite_of_isEmpty hEmpty]
      simp [Work.charge, Work.collapsed, Work.dropped,
        Work.repairs]
  | false =>
      have hPreface :
          (rule.preface layout (rule.survey layout lines)
            lines).charge rule weigh = 0 := by
        unfold Work.charge Work.collapsed Work.dropped
        rw [repairs_preface]
        simp [preface]
      have hAll :=
        Method.total_rewriteAll hWeighs layout.reindent _
          (survey_pairwise hConflict) fun method hMethod =>
            have hLocated := located_of_mem_survey hMethod
            ⟨Method.Spans.of_located hLocated,
              hLocated.allBlank_indent,
              hLocated.allBlank_unit hUnit⟩
      rw [rewrite_eq_preface hEmpty]
      simp only
      rw [Work.charge_add, hPreface, zero_add,
        Lines.total_map _ hWeighs.renamed, hAll]

/-
  The conservation law of a rewrite.  Every method that is
  found is wrapped, in order, or repaired.  The number of
  lines grows by two for a wrapper and one for a marker, and
  shrinks by two for a wrapper that a repair takes out and
  one for a surplus closing line.  The balance of braces
  changes by the surplus closing lines and the markers only.
-/
theorem apply_conserves
    (rule : Rule)
    (layout : Layout)
    (lines : Lines)
    (hUnit : Text.allBlank layout.unit = true)
    {work : Work}
    {unbalanced : List Nat}
    (hApply :
      rule.apply layout lines = .ok (work, unbalanced)) :
    work.counts.methodsFound =
        work.counts.methodsWrapped +
          work.counts.methodsCanonical +
          work.counts.methodsRepaired ∧
      work.repairs.length = work.counts.methodsRepaired ∧
      (work.lines.length : Int) - lines.length =
        2 * work.counts.methodsWrapped +
          work.counts.markersInserted -
          2 * work.collapsed - work.dropped ∧
      Lines.balance work.lines - Lines.balance lines =
        work.dropped +
          work.counts.markersInserted *
            Line.braceBalance rule.markerLine ∧
      ((∀ marker ∈ rule.marker,
          '\x7b' ∉ marker ∧ '\x7d' ∉ marker) →
        Lines.balance work.lines - Lines.balance lines =
          work.dropped) := by
  rcases apply_eq_ok hApply with ⟨hConflict, rfl, _⟩
  have hHandles :=
    rule.handles_rewrite layout (rule.survey layout lines)
      lines
  have hFound :=
    rule.methodsFound_rewrite layout
      (rule.survey layout lines) lines
  have hLines :=
    total_rewrite rule.weighs_one hUnit hConflict
  have hBraces :=
    total_rewrite rule.weighs_braceBalance hUnit hConflict
  generalize
    rule.rewrite layout (rule.survey layout lines) lines =
      work at hHandles hFound hLines hBraces ⊢
  have hLength :
      (work.lines.length : Int) - lines.length =
        2 * work.counts.methodsWrapped +
          work.counts.markersInserted -
          2 * work.collapsed - work.dropped := by
    rw [Lines.total_one, Lines.total_one] at hLines
    unfold Work.charge at hLines
    linarith
  have hBalance :
      Lines.balance work.lines - Lines.balance lines =
        work.dropped +
          work.counts.markersInserted *
            Line.braceBalance rule.markerLine := by
    unfold Lines.balance
    unfold Work.charge at hBraces
    rw [rule.wrapOpen_balance, rule.wrapClose_balance]
      at hBraces
    linarith
  refine ⟨hFound.trans hHandles.states.symm,
    hHandles.reports, hLength, hBalance, ?_⟩
  intro hMarker
  have hNone : Line.braceBalance rule.markerLine = 0 := by
    unfold markerLine
    cases hSome : rule.marker with
    | none => rfl
    | some marker =>
        rcases hMarker marker hSome with ⟨hOpen, hClose⟩
        apply Line.braceBalance_eq_zero_of_forall
        intro c hc
        unfold Line.braceWeight
        rw [if_neg (ne_of_mem_of_not_mem hc hOpen),
          if_neg (ne_of_mem_of_not_mem hc hClose)]
  rw [hBalance, hNone, mul_zero, add_zero]

/-
  A method with two wrappers whose own closing line has been
  pushed down by an annotated one, and a method without a
  wrapper.
-/
theorem apply_conserves_doubled :
    let layout : Layout :=
      { unit := "  ".toList, reindent := true }
    let lines : Lines :=
      ["void _generateQuestion() \x7b".toList,
        "  setState(() \x7b".toList,
        "  setState(() \x7b".toList,
        "    a();".toList,
        "  \x7d);".toList,
        "  \x7d);".toList,
        "\x7d); // setState".toList,
        "\x7d".toList,
        "void _generateQuestion() \x7b".toList,
        "  b();".toList,
        "\x7d".toList]
    Text.allBlank layout.unit = true ∧
      ∃ work,
        standard.apply layout lines = .ok (work, []) ∧
          work.counts.methodsFound =
            work.counts.methodsWrapped +
              work.counts.methodsCanonical +
              work.counts.methodsRepaired ∧
          work.repairs.length =
            work.counts.methodsRepaired ∧
          (work.lines.length : Int) - lines.length =
            2 * work.counts.methodsWrapped +
              work.counts.markersInserted -
              2 * work.collapsed - work.dropped ∧
          Lines.balance work.lines - Lines.balance lines =
            work.dropped +
              work.counts.markersInserted *
                Line.braceBalance standard.markerLine ∧
          ((∀ marker ∈ standard.marker,
              '\x7b' ∉ marker ∧ '\x7d' ∉ marker) →
            Lines.balance work.lines -
                Lines.balance lines =
              work.dropped) := by
  intro layout lines
  have hUnit : Text.allBlank layout.unit = true := rfl
  have hConflict :
      (standard.survey layout lines).conflict = none := rfl
  have hApply := apply_of_conflict_eq_none hConflict
  exact ⟨hUnit, _, hApply,
    apply_conserves standard layout lines hUnit hApply⟩

end Rule

end NotifyScope
