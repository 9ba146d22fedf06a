import NotifyScope.Proofs.Rewrite.Locality

/-
  Methods on which a rewrite has nothing left to do, and what
  a rewrite does with a text that holds no others: it changes
  no line, and counts no edit.  A rewrite that counts no edit
  has found no others, either.

  Key definitions include:
    * `Counts.Idle`
    * `Lines.Renamed`
    * `Method.Settled`
    * `Method.AtRest`
    * `Rule.AtRest`

  Main declarations:
    * `Method.idle_rewriteAll_iff`
    * `Rule.idle_rewrite_iff`
    * `Rule.rewrite_of_settled`
-/

------------------------------------------------------------
-- Counts
------------------------------------------------------------

namespace NotifyScope

namespace Counts

/- Counts of a rewrite that edited nothing. -/
structure Idle
    (counts : Counts) : Prop where
  wrapped : counts.methodsWrapped = 0
  repaired : counts.methodsRepaired = 0
  repairs : counts.repairsApplied = 0
  signatures : counts.signaturesRenamed = 0
  markers : counts.markersInserted = 0
  callSites : counts.callSitesRenamed = 0

/- Two pieces of work hold no edit if neither does. -/
theorem idle_add_iff
    {left right : Counts} :
    (left + right).Idle ↔ left.Idle ∧ right.Idle := by
  constructor
  · intro hIdle
    have hWrapped := Nat.add_eq_zero_iff.mp hIdle.wrapped
    have hRepaired := Nat.add_eq_zero_iff.mp hIdle.repaired
    have hRepairs := Nat.add_eq_zero_iff.mp hIdle.repairs
    have hSignatures :=
      Nat.add_eq_zero_iff.mp hIdle.signatures
    have hMarkers := Nat.add_eq_zero_iff.mp hIdle.markers
    have hCallSites :=
      Nat.add_eq_zero_iff.mp hIdle.callSites
    exact
      ⟨⟨hWrapped.1, hRepaired.1, hRepairs.1, hSignatures.1,
          hMarkers.1, hCallSites.1⟩,
        ⟨hWrapped.2, hRepaired.2, hRepairs.2,
          hSignatures.2, hMarkers.2, hCallSites.2⟩⟩
  · rintro ⟨hLeft, hRight⟩
    constructor
    · exact congrArg₂ (· + ·) hLeft.wrapped hRight.wrapped
    · exact congrArg₂ (· + ·) hLeft.repaired
        hRight.repaired
    · exact congrArg₂ (· + ·) hLeft.repairs hRight.repairs
    · exact congrArg₂ (· + ·) hLeft.signatures
        hRight.signatures
    · exact congrArg₂ (· + ·) hLeft.markers hRight.markers
    · exact congrArg₂ (· + ·) hLeft.callSites
        hRight.callSites

/- A declaration is left alone if it counts no edit. -/
theorem idle_ofDeclaration_iff
    {edit : DeclarationChange} :
    (ofDeclaration edit).Idle ↔
      edit.renamed = false ∧ edit.markerInserted = false := by
  constructor
  · intro hIdle
    exact ⟨Bool.toNat_eq_zero.mp hIdle.signatures,
      Bool.toNat_eq_zero.mp hIdle.markers⟩
  · rintro ⟨hRenamed, hMarker⟩
    exact ⟨rfl, rfl, rfl, Bool.toNat_eq_zero.mpr hRenamed,
      Bool.toNat_eq_zero.mpr hMarker, rfl⟩

end Counts

------------------------------------------------------------
-- Renamed Lines
------------------------------------------------------------

/- A line in which nothing is renamed stays as it is. -/
theorem Rule.renameLine_snd_eq_zero_iff
    (rule : Rule)
    (line : Line) :
    (rule.renameLine line).2 = 0 ↔
      rule.renameLine line = (line, 0) := by
  constructor
  · intro hZero
    unfold renameLine at hZero ⊢
    split
    · rfl
    · rename_i hNe
      rw [if_neg hNe, Identifier.rename_count_eq_zero_iff
        rule.oldName_isName] at hZero
      exact Identifier.rename_eq_self rule.oldName_isName
        rule.newName hZero
  · intro hLine
    rw [hLine]

namespace Lines

/- The old name does not stand in these lines any more. -/
def Renamed
    (rule : Rule)
    (lines : Lines) : Prop :=
  ∀ line ∈ lines, rule.renameLine line = (line, 0)

variable {rule : Rule}
variable {lines : Lines}

theorem Renamed.get
    (hRenamed : Lines.Renamed rule lines)
    {i : Nat}
    (hLess : i < lines.length) :
    rule.renameLine (Lines.get lines i) =
      (Lines.get lines i, 0) :=
  hRenamed _ (mem_of_lt_length hLess)

/- References are counted where there are any. -/
theorem renameAll_snd_eq_zero_iff :
    (renameAll rule lines).2 = 0 ↔ Renamed rule lines := by
  induction lines with
  | nil => simp [renameAll, Renamed]
  | cons line lines ih =>
      have hCount :
          (renameAll rule (line :: lines)).2 =
            (rule.renameLine line).2 +
              (renameAll rule lines).2 := rfl
      rw [hCount, Nat.add_eq_zero_iff, ih,
        rule.renameLine_snd_eq_zero_iff]
      unfold Renamed
      rw [List.forall_mem_cons]

/- Once all lines are renamed, nothing is left to rename. -/
theorem renamed_renameAll
    (rule : Rule)
    (lines : Lines) :
    Renamed rule (renameAll rule lines).1 := by
  intro line hLine
  rw [renameAll_fst] at hLine
  rcases List.mem_map.mp hLine with ⟨other, _, rfl⟩
  exact rule.renameLine_renamed other

/- Renaming where nothing is left to rename. -/
theorem renameAll_of_renamed
    (hRenamed : Lines.Renamed rule lines) :
    renameAll rule lines = (lines, 0) := by
  apply Prod.ext
  · rw [renameAll_fst]
    conv_rhs => rw [← List.map_id lines]
    apply List.map_congr_left
    intro line hLine
    unfold Rule.renamed
    rw [hRenamed line hLine]
    rfl
  · exact renameAll_snd_eq_zero_iff.mpr hRenamed

end Lines

------------------------------------------------------------
-- Settled Methods
------------------------------------------------------------

namespace Method

/-
  A method with the new name whose body is canonical and that
  has the marker of the rule directly above it.
-/
structure Settled
    (rule : Rule)
    (lines : Lines)
    (method : Method) : Prop where
  state : method.bodyState rule lines = .canonical
  name : method.name = rule.newName
  marker : ∀ marker ∈ rule.marker,
    Lines.hasMarkerAbove lines method.start marker = true

/-
  A method in which there is nothing to do but to rename it:
  its body is canonical and its marker is in place.
-/
structure AtRest
    (rule : Rule)
    (lines : Lines)
    (method : Method) : Prop where
  state : method.bodyState rule lines = .canonical
  marker : ∀ marker ∈ rule.marker,
    Lines.hasMarkerAbove lines method.start marker = true

variable {rule : Rule}
variable {lines : Lines}
variable {methods : List Method}

theorem Settled.atRest
    {method : Method}
    (hSettled : Settled rule lines method) :
    AtRest rule lines method :=
  ⟨hSettled.state, hSettled.marker⟩

------------------------------------------------------------
-- One Method
------------------------------------------------------------

/- A body counts no edit if it is canonical. -/
theorem idle_rewriteBody_iff
    (reindent : Bool)
    (method : Method) :
    (method.rewriteBody rule reindent lines).counts.Idle ↔
      method.bodyState rule lines = .canonical := by
  unfold rewriteBody
  cases method.bodyState rule lines with
  | canonical =>
      exact iff_of_true ⟨rfl, rfl, rfl, rfl, rfl, rfl⟩ rfl
  | unwrapped =>
      refine iff_of_false ?_ (by decide)
      exact fun hIdle => Nat.one_ne_zero hIdle.wrapped
  | legacy =>
      refine iff_of_false ?_ (by decide)
      exact fun hIdle => Nat.one_ne_zero hIdle.repaired
  | doubled =>
      refine iff_of_false ?_ (by decide)
      exact fun hIdle => Nat.one_ne_zero hIdle.repaired

/- A canonical body is left as it is. -/
theorem lines_rewriteBody_of_canonical
    (reindent : Bool)
    {method : Method}
    (hState : method.bodyState rule lines = .canonical) :
    (method.rewriteBody rule reindent lines).lines =
      lines := by
  unfold rewriteBody
  simp only [hState]

/- Only the line above tells whether a marker is there. -/
theorem hasMarkerAbove_congr
    {left right : Lines}
    {i : Nat}
    (marker : Line)
    (hAbove : ∀ j, j < i →
      Lines.get left j = Lines.get right j) :
    Lines.hasMarkerAbove left i marker =
      Lines.hasMarkerAbove right i marker := by
  unfold Lines.hasMarkerAbove
  split
  · rfl
  · rw [hAbove _ (Nat.lt_succ_self _)]

theorem hasMarkerAbove_set
    (lines : Lines)
    (i : Nat)
    (line marker : Line) :
    Lines.hasMarkerAbove (lines.set i line) i marker =
      Lines.hasMarkerAbove lines i marker :=
  hasMarkerAbove_congr marker fun _ hLess =>
    Lines.get_set lines hLess.ne line

/- What is counted of a declaration. -/
theorem renameDeclaration_snd
    (method : Method)
    (lines : Lines) :
    (method.renameDeclaration rule lines).2 =
      { renamed :=
          decide (0 <
            (rule.renameLine
              (Lines.get lines method.start)).2)
        markerInserted :=
          rule.marker.any fun marker =>
            !Lines.hasMarkerAbove lines method.start
              marker } := by
  unfold renameDeclaration
  cases rule.marker with
  | none => rfl
  | some marker =>
      simp only [Option.any_some]
      rw [← hasMarkerAbove_set lines method.start
        (rule.renameLine (Lines.get lines method.start)).1]
      unfold Lines.insertMarker
      split
      · rename_i hAbove
        rw [hAbove]
        rfl
      · rename_i hMissing
        rw [Bool.not_eq_true] at hMissing
        rw [hMissing]
        rfl

/-
  A declaration counts no edit if it does not mention the old
  name and stands below its marker.
-/
theorem idle_renameDeclaration_iff
    (method : Method)
    (lines : Lines) :
    (Counts.ofDeclaration
        (method.renameDeclaration rule lines).2).Idle ↔
      rule.renameLine (Lines.get lines method.start) =
          (Lines.get lines method.start, 0) ∧
        ∀ marker ∈ rule.marker,
          Lines.hasMarkerAbove lines method.start marker =
            true := by
  rw [Counts.idle_ofDeclaration_iff, renameDeclaration_snd,
    ← rule.renameLine_snd_eq_zero_iff]
  apply and_congr
  · rw [decide_eq_false_iff_not, Nat.not_lt,
      Nat.le_zero_eq]
  · cases rule.marker <;> simp

/- Such a declaration is left as it is. -/
theorem renameDeclaration_of_idle
    {method : Method}
    (hLine :
      rule.renameLine (Lines.get lines method.start) =
        (Lines.get lines method.start, 0))
    (hMarker : ∀ marker ∈ rule.marker,
      Lines.hasMarkerAbove lines method.start marker = true)
    (hLess : method.start < lines.length) :
    (method.renameDeclaration rule lines).1 = lines := by
  have hSet :
      lines.set method.start
          (rule.renamed (Lines.get lines method.start)) =
        lines := by
    unfold Rule.renamed
    rw [hLine, Lines.get_eq_getElem hLess,
      List.set_getElem_self]
  cases hSome : rule.marker with
  | none =>
      rw [renameDeclaration_of_none method lines hSome, hSet]
  | some marker =>
      rw [renameDeclaration_of_some method lines hSome, hSet]
      unfold Lines.insertMarker
      rw [if_pos (hMarker marker hSome)]

/- A method counts no edit if it is at rest and renamed. -/
theorem idle_rewrite_iff
    (reindent : Bool)
    (method : Method)
    (lines : Lines) :
    (method.rewrite rule reindent lines).counts.Idle ↔
      AtRest rule lines method ∧
        rule.renameLine (Lines.get lines method.start) =
          (Lines.get lines method.start, 0) := by
  have hCounts :
      (method.rewrite rule reindent lines).counts =
        (method.rewriteBody rule reindent lines).counts +
          .ofDeclaration
            (method.renameDeclaration rule
              (method.rewriteBody rule reindent
                lines).lines).2 := rfl
  rw [hCounts, Counts.idle_add_iff, idle_rewriteBody_iff,
    idle_renameDeclaration_iff]
  constructor
  · rintro ⟨hState, hLine, hMarker⟩
    rw [lines_rewriteBody_of_canonical reindent hState]
      at hLine hMarker
    exact ⟨⟨hState, hMarker⟩, hLine⟩
  · rintro ⟨hRest, hLine⟩
    rw [lines_rewriteBody_of_canonical reindent hRest.state]
    exact ⟨hRest.state, hLine, hRest.marker⟩

/- Rewriting it changes nothing. -/
theorem lines_rewrite_of_atRest
    (reindent : Bool)
    {method : Method}
    (hRest : AtRest rule lines method)
    (hLine :
      rule.renameLine (Lines.get lines method.start) =
        (Lines.get lines method.start, 0))
    (hLess : method.start < lines.length) :
    (method.rewrite rule reindent lines).lines = lines := by
  have hLines :
      (method.rewrite rule reindent lines).lines =
        (method.renameDeclaration rule
          (method.rewriteBody rule reindent
            lines).lines).1 := rfl
  rw [hLines,
    lines_rewriteBody_of_canonical reindent hRest.state]
  exact renameDeclaration_of_idle hLine hRest.marker hLess

/- Rewriting a settled method changes nothing. -/
theorem rewrite_of_settled
    (reindent : Bool)
    {method : Method}
    (hSettled : Settled rule lines method)
    (hLine :
      rule.renameLine (Lines.get lines method.start) =
        (Lines.get lines method.start, 0))
    (hLess : method.start < lines.length) :
    (method.rewrite rule reindent lines).lines = lines ∧
      (method.rewrite rule reindent lines).counts.Idle :=
  ⟨lines_rewrite_of_atRest reindent hSettled.atRest hLine
      hLess,
    (idle_rewrite_iff reindent method lines).mpr
      ⟨hSettled.atRest, hLine⟩⟩

------------------------------------------------------------
-- All Methods
------------------------------------------------------------

section All

variable
  (hMethods : ∀ method ∈ methods,
    method.start < lines.length)

include hMethods

/- Methods that are at rest and renamed keep all lines. -/
theorem lines_rewriteAll_of_atRest
    (reindent : Bool)
    (hRest : ∀ method ∈ methods,
      AtRest rule lines method ∧
        rule.renameLine (Lines.get lines method.start) =
          (Lines.get lines method.start, 0)) :
    (rewriteAll rule reindent methods lines).lines =
      lines := by
  induction methods with
  | nil => rfl
  | cons method methods ih =>
      rcases List.forall_mem_cons.mp hMethods with
        ⟨hLess, hLater⟩
      rcases List.forall_mem_cons.mp hRest with
        ⟨hOwn, hOthers⟩
      have hStep :
          (rewriteAll rule reindent (method :: methods)
              lines).lines =
            (method.rewrite rule reindent
              (rewriteAll rule reindent methods
                lines).lines).lines := rfl
      rw [hStep, ih hLater hOthers]
      exact lines_rewrite_of_atRest reindent hOwn.1 hOwn.2
        hLess

/-
  Methods count no edit if each is at rest and renamed.  The
  ones below come first, so each finds the lines unchanged.
-/
theorem idle_rewriteAll_iff
    (reindent : Bool) :
    (rewriteAll rule reindent methods lines).counts.Idle ↔
      ∀ method ∈ methods,
        AtRest rule lines method ∧
          rule.renameLine (Lines.get lines method.start) =
            (Lines.get lines method.start, 0) := by
  induction methods with
  | nil =>
      refine iff_of_true ⟨rfl, rfl, rfl, rfl, rfl, rfl⟩ ?_
      intro method hMethod
      cases hMethod
  | cons method methods ih =>
      have hLater := (List.forall_mem_cons.mp hMethods).2
      have hCounts :
          (rewriteAll rule reindent (method :: methods)
              lines).counts =
            (rewriteAll rule reindent methods lines).counts +
              (method.rewrite rule reindent
                (rewriteAll rule reindent methods
                  lines).lines).counts := rfl
      rw [hCounts, Counts.idle_add_iff, ih hLater,
        List.forall_mem_cons, and_comm]
      apply and_congr_left
      intro hOthers
      rw [lines_rewriteAll_of_atRest hLater reindent
          hOthers,
        idle_rewrite_iff]

end All

end Method

------------------------------------------------------------
-- A Whole Rule
------------------------------------------------------------

namespace Rule

open Method

/-
  A rule that has nothing to do in the lines: the methods it
  finds are at rest and, if it finds any declaration at all,
  the old name does not stand in the lines any more.
-/
structure AtRest
    (rule : Rule)
    (layout : Layout)
    (lines : Lines) : Prop where
  methods :
    ∀ method ∈ (rule.survey layout lines).methods,
      Method.AtRest rule lines method
  renamed :
    (rule.survey layout lines).isEmpty = false →
      Lines.Renamed rule lines

variable {rule : Rule} {layout : Layout} {lines : Lines}

/- The declaration of a method is one of the lines. -/
theorem start_lt_length_of_mem_survey
    {method : Method}
    (hMethod :
      method ∈ (rule.survey layout lines).methods) :
    method.start < lines.length := by
  have hSpans :=
    Spans.of_located (located_of_mem_survey hMethod)
  exact hSpans.lt.trans
    (Block.close?_lt_length hSpans.closes)

/- Where a rule finds a declaration, it goes to work. -/
theorem rewrite_of_found
    {survey : Survey}
    (hFound : survey.isEmpty = false) :
    let work :=
      rewriteAll rule layout.reindent survey.methods lines
    let renamed := Lines.renameAll rule work.lines
    (rule.rewrite layout survey lines).lines = renamed.1 ∧
      (rule.rewrite layout survey lines).counts =
        { methodsFound := survey.methods.length
          methodsSkipped := survey.unbalanced.length
          callSitesRenamed := renamed.2 } + work.counts := by
  unfold rewrite
  rw [hFound]
  exact ⟨rfl, rfl⟩

/- The methods of a rule at rest are renamed as well. -/
theorem AtRest.renamed_start
    (hRest : rule.AtRest layout lines)
    (hFound : (rule.survey layout lines).isEmpty = false) :
    ∀ method ∈ (rule.survey layout lines).methods,
      Method.AtRest rule lines method ∧
        rule.renameLine (Lines.get lines method.start) =
          (Lines.get lines method.start, 0) := by
  intro method hMethod
  exact ⟨hRest.methods method hMethod,
    (hRest.renamed hFound).get
      (start_lt_length_of_mem_survey hMethod)⟩

/- It leaves the lines as they are. -/
theorem lines_rewrite_of_atRest
    (hRest : rule.AtRest layout lines) :
    (rule.rewrite layout (rule.survey layout lines)
      lines).lines = lines := by
  cases hFound : (rule.survey layout lines).isEmpty with
  | true => rw [rewrite_of_isEmpty hFound]
  | false =>
      rw [(rewrite_of_found hFound).1,
        lines_rewriteAll_of_atRest
          (fun _ hMethod =>
            start_lt_length_of_mem_survey hMethod)
          layout.reindent (hRest.renamed_start hFound),
        Lines.renameAll_of_renamed (hRest.renamed hFound)]

/- A rule counts no edit exactly if it has nothing to do. -/
theorem idle_rewrite_iff :
    (rule.rewrite layout (rule.survey layout lines)
        lines).counts.Idle ↔
      rule.AtRest layout lines := by
  have hLess :
      ∀ method ∈ (rule.survey layout lines).methods,
        method.start < lines.length :=
    fun _ hMethod => start_lt_length_of_mem_survey hMethod
  cases hFound : (rule.survey layout lines).isEmpty with
  | true =>
      rw [rewrite_of_isEmpty hFound]
      refine iff_of_true ⟨rfl, rfl, rfl, rfl, rfl, rfl⟩
        ⟨?_, fun hNot => ?_⟩
      · rw [(Survey.isEmpty_iff.mp hFound).1]
        exact fun _ hMethod => absurd hMethod (by simp)
      · rw [hFound] at hNot
        cases hNot
  | false =>
      rw [(rewrite_of_found hFound).2, Counts.idle_add_iff,
        idle_rewriteAll_iff hLess]
      constructor
      · rintro ⟨hRename, hMethods⟩
        have hCount := hRename.callSites
        simp only at hCount
        rw [lines_rewriteAll_of_atRest hLess layout.reindent
            hMethods,
          Lines.renameAll_snd_eq_zero_iff] at hCount
        exact ⟨fun method hMethod =>
            (hMethods method hMethod).1,
          fun _ => hCount⟩
      · intro hRest
        have hMethods := hRest.renamed_start hFound
        refine ⟨?_, hMethods⟩
        rw [lines_rewriteAll_of_atRest hLess layout.reindent
            hMethods,
          Lines.renameAll_of_renamed
            (hRest.renamed hFound)]
        exact ⟨rfl, rfl, rfl, rfl, rfl, rfl⟩

/- Only settled methods, and no old name: nothing to do. -/
theorem rewrite_of_settled
    (hMethods :
      ∀ method ∈ (rule.survey layout lines).methods,
        Settled rule lines method)
    (hRenamed : Lines.Renamed rule lines) :
    let work :=
      rule.rewrite layout (rule.survey layout lines) lines
    work.lines = lines ∧ work.counts.Idle := by
  have hRest : rule.AtRest layout lines :=
    ⟨fun method hMethod => (hMethods method hMethod).atRest,
      fun _ => hRenamed⟩
  exact ⟨lines_rewrite_of_atRest hRest,
    idle_rewrite_iff.mpr hRest⟩

end Rule

end NotifyScope
