import NotifyScope.Proofs.Rewrite.Unchanged
import NotifyScope.Proofs.Rewrite.UserLines
import NotifyScope.Proofs.Wrapper.Surplus
import NotifyScope.Proofs.Wrapper.Tower

/-
  When a repair is over and what it then leaves alone.  Its
  rounds come to an end, since each of them takes out a line;
  taking off annotations makes no new round possible; and so
  a second repair has nothing to do, also where the first one
  left the method without an end.  On a method that needs no
  round at all a repair takes off annotations and does no
  more than that.

  Key definitions include:
    * `Repair.Rounds`

  Main declarations:
    * `Repair.rounds_iff`
    * `Repair.Rounds.length_eq`
    * `Method.repair_reaches_fixed_point`
    * `Method.repair_of_canonical`
-/

------------------------------------------------------------
-- Rounds
------------------------------------------------------------

namespace NotifyScope

namespace Repair

/-
  The rounds of a repair, from some lines to others, counted
  by what they do.  They are over where none is possible.
-/
inductive Rounds
    (rule : Rule)
    (start : Nat) :
    Lines → Report → Lines → Prop where
  | done
      {lines : Lines}
      (hCollapse : collapse? rule start lines = none)
      (hDrop : dropSurplus? rule start lines = none) :
      Rounds rule start lines {} lines
  | collapse
      {lines next settled : Lines}
      {report : Report}
      (hCollapse : collapse? rule start lines = some next)
      (hRest : Rounds rule start next report settled) :
      Rounds rule start lines
        { report with collapsed := report.collapsed + 1 }
        settled
  | drop
      {lines next settled : Lines}
      {report : Report}
      (hCollapse : collapse? rule start lines = none)
      (hDrop : dropSurplus? rule start lines = some next)
      (hRest : Rounds rule start next report settled) :
      Rounds rule start lines
        { report with dropped := report.dropped + 1 }
        settled

variable {rule : Rule}
variable {start : Nat}
variable {lines settled : Lines}
variable {report : Report}

/- There is one way to go through the rounds, and an end. -/
theorem rounds_iff :
    Rounds rule start lines report settled ↔
      settle rule start lines = (settled, report) := by
  constructor
  · intro hRounds
    induction hRounds with
    | done hCollapse hDrop =>
        exact settle_of_none hCollapse hDrop
    | collapse hCollapse _ ih =>
        rw [settle_of_collapse hCollapse, ih]
    | drop hCollapse hDrop _ ih =>
        rw [settle_of_dropSurplus hCollapse hDrop, ih]
  · intro hSettle
    have hRounds :
        Rounds rule start lines (settle rule start lines).2
          (settle rule start lines).1 := by
      apply settle_induction (motive := fun before result =>
        Rounds rule start before result.2 result.1)
      · exact fun _ _ hStep hRest => .collapse hStep hRest
      · exact fun _ _ hNone hStep hRest =>
          .drop hNone hStep hRest
      · exact fun _ hCollapse hDrop => .done hCollapse hDrop
    rw [hSettle] at hRounds
    exact hRounds

/- Each round takes out as many lines as its kind does. -/
theorem Rounds.length_eq
    (hRounds : Rounds rule start lines report settled) :
    2 * report.collapsed + report.dropped + settled.length =
      lines.length := by
  induction hRounds with
  | done _ _ => simp
  | @collapse lines next _ _ hCollapse _ ih =>
      rcases collapse?_eq_some_iff.mp hCollapse with
        ⟨stop, _, pair, hClose, _, _, hPair, hBefore, rfl⟩
      have hOrder := Wrapper.order_of_stackedAt? hPair
      have hStop := Block.close?_lt_length hClose
      rw [length_collapsed hOrder.2.1 (by omega)] at ih
      simp only
      omega
  | @drop lines next _ _ _ hDrop _ ih =>
      rcases dropSurplus?_eq_some_iff.mp hDrop with
        ⟨stop, _, hClose, _, _, rfl⟩
      have hStop := Block.close?_lt_length hClose
      rw [List.length_eraseIdx, if_pos hStop] at ih
      simp only
      omega

end Repair

------------------------------------------------------------
-- Annotations
------------------------------------------------------------

namespace Block

/- The lines around and inside of a block that closes. -/
theorem exists_block_of_close?
    {lines : Lines}
    {start stop : Nat}
    (hClose : close? lines start = some stop) :
    ∃ seen decl body rest,
      lines = seen ++ decl :: (body ++ rest) ∧
        seen.length = start ∧
        (seen ++ decl :: body).length = stop := by
  have hLess := lt_close? hClose
  have hStop := close?_lt_length hClose
  rcases Lines.exists_eq_append_cons
      (hLess.trans hStop) with
    ⟨seen, decl, behind, rfl, rfl⟩
  refine ⟨seen, decl, behind.take (stop - seen.length - 1),
    behind.drop (stop - seen.length - 1), ?_, rfl, ?_⟩
  · rw [List.take_append_drop]
  · simp only [List.length_append, List.length_cons,
      List.length_take] at hStop ⊢
    omega

end Block

namespace Lines

/- A count of lines in which their numbers do not matter. -/
theorem countP_zipIdx
    {test : Line × Nat → Bool}
    (plain : Line → Bool)
    (lines : Lines)
    (n : Nat)
    (hTest : ∀ line i, n ≤ i → i < n + lines.length →
      test (line, i) = plain line) :
    (lines.zipIdx n).countP test = lines.countP plain := by
  induction lines generalizing n with
  | nil => rfl
  | cons line rest ih =>
      rw [List.length_cons] at hTest
      rw [List.zipIdx_cons, List.countP_cons,
        List.countP_cons, hTest line n le_rfl (by omega),
        ih (n + 1) fun other i hLe hLess =>
          hTest other i (by omega) (by omega)]

/- The lines of a block that pass a test, by their numbers. -/
theorem countP_block
    (seen : Lines)
    (decl : Line)
    (body rest : Lines)
    (test : Line → Bool) :
    (seen ++ decl :: (body ++ rest)).zipIdx.countP
        (fun (line, i) =>
          decide (seen.length < i ∧
            i < (seen ++ decl :: body).length) &&
              test line) =
      body.countP test := by
  obtain ⟨above, hAbove⟩ :
      ∃ above, above = seen ++ [decl] :=
    ⟨_, rfl⟩
  have hLength : above.length = seen.length + 1 := by
    rw [hAbove, List.length_append, List.length_singleton]
  have hSplit :
      seen ++ decl :: (body ++ rest) =
        above ++ (body ++ rest) := by
    simp [hAbove]
  rw [hSplit, List.zipIdx_append, List.zipIdx_append,
    List.countP_append, List.countP_append,
    countP_zipIdx (fun _ => false) above,
    countP_zipIdx test body,
    countP_zipIdx (fun _ => false) rest]
  · simp
  all_goals
    intro line i hLe hLess
    simp only [List.length_append, List.length_cons]
  · rw [decide_eq_false (by omega), Bool.false_and]
  · rw [decide_eq_true (by omega), Bool.true_and]
  · rw [decide_eq_false (by omega), Bool.false_and]

end Lines

namespace Repair

/-
  The annotations are taken off the lines of the block, and
  the lines that had one are counted.
-/
theorem normalize_block
    (rule : Rule)
    (seen : Lines)
    (decl : Line)
    {body : Lines}
    (rest : Lines)
    (hClose :
      Block.close? (seen ++ decl :: (body ++ rest))
          seen.length = some (seen ++ decl :: body).length) :
    normalize rule seen.length
        (seen ++ decl :: (body ++ rest)) =
      (seen ++ decl :: (body.map rule.plain ++ rest),
        body.countP rule.closesAnnotated) := by
  refine Prod.ext ?_ ?_
  · exact normalize_seen_cons rule seen decl body rest hClose
  · unfold normalize
    rw [hClose]
    simp only
    rw [← List.countP_eq_length_filter]
    exact Lines.countP_block seen decl body rest
      rule.closesAnnotated

end Repair

namespace Rule

variable {rule : Rule}

/- A line has no annotation once it is taken off. -/
theorem closesAnnotated_plain
    (line : Line) :
    rule.closesAnnotated (rule.plain line) = false := by
  unfold plain
  split
  · have hCloses :
        rule.closesWrapper
            (Text.leading line ++ rule.wrapClose) = true :=
      closesWrapper_append (Text.allBlank_leading line)
    rw [closesWrapper_eq, Bool.and_eq_true,
      Bool.not_eq_true'] at hCloses
    exact hCloses.2
  · rename_i hNot
    exact Bool.eq_false_iff.mpr hNot

/- Lines without annotations stay as they are. -/
theorem map_plain_eq_self
    {lines : Lines}
    (hPlain : ∀ line ∈ lines,
      rule.closesAnnotated line = false) :
    lines.map rule.plain = lines := by
  conv_rhs => rw [← List.map_id lines]
  apply List.map_congr_left
  intro line hLine
  unfold plain
  rw [hPlain line hLine]
  rfl

end Rule

namespace Repair

/- Taking off annotations twice is taking them off once. -/
theorem normalize_normalize
    (rule : Rule)
    (start : Nat)
    (lines : Lines) :
    normalize rule start (normalize rule start lines).1 =
      ((normalize rule start lines).1, 0) := by
  cases hClose : Block.close? lines start with
  | none =>
      have hNone : normalize rule start lines = (lines, 0) := by
        unfold normalize
        rw [hClose]
      rw [hNone, hNone]
  | some stop =>
      rcases Block.exists_block_of_close? hClose with
        ⟨seen, decl, body, rest, rfl, rfl, rfl⟩
      have hAfter := close?_normalize rule seen.length
        (seen ++ decl :: (body ++ rest))
      rw [normalize_block rule seen decl rest hClose] at hAfter ⊢
      simp only at hAfter ⊢
      have hPlain : ∀ line ∈ body.map rule.plain,
          rule.closesAnnotated line = false := by
        intro line hLine
        rcases List.mem_map.mp hLine with ⟨other, _, rfl⟩
        exact Rule.closesAnnotated_plain other
      rw [normalize_block rule seen decl rest (by
        rw [hAfter, hClose]
        simp),
        Rule.map_plain_eq_self hPlain,
        List.countP_eq_zero.mpr fun line hLine => by
          rw [hPlain line hLine]
          decide]

end Repair

------------------------------------------------------------
-- Repairs
------------------------------------------------------------

namespace Method

variable {rule : Rule}
variable {fallback : Text}
variable {lines : Lines}
variable {method : Method}

/- A declaration line stays one in a repair. -/
theorem opener?_repair
    (hOpener :
      (opener? rule
        (Lines.get lines method.start)).isSome = true) :
    (opener? rule
      (Lines.get (method.repair rule lines).1
        method.start)).isSome = true := by
  have hSame :
      Lines.get (method.repair rule lines).1 method.start =
        Lines.get lines method.start :=
    (Repair.get_normalize_of_le _ le_rfl).trans
      (Repair.get_settle_of_le lines le_rfl)
  rw [hSame]
  exact hOpener

/-
  No round is possible behind a repair.  Without an end there
  is nothing to look at; with one, the lines look as they did
  when the last round was over.
-/
theorem repair_over
    (hOpener :
      (opener? rule
        (Lines.get lines method.start)).isSome = true) :
    Repair.collapse? rule method.start
          (method.repair rule lines).1 = none ∧
      Repair.dropSurplus? rule method.start
          (method.repair rule lines).1 = none := by
  cases hClose :
      Block.close? (method.repair rule lines).1
        method.start with
  | none =>
      unfold Repair.collapse? Repair.dropSurplus?
      rw [hClose]
      exact ⟨rfl, rfl⟩
  | some stop =>
      exact repair_ends ⟨hClose, opener?_repair hOpener⟩

/-
  A repair comes to an end, after no more rounds than there
  are lines, and what it leaves is left as it is by the next.
-/
theorem repair_reaches_fixed_point
    (hMethod : .ok method ∈ locate rule fallback lines) :
    let repaired := method.repair rule lines
    (∃ settled report,
      Repair.Rounds rule method.start lines report settled ∧
        2 * report.collapsed + report.dropped +
            settled.length =
          lines.length ∧
        repaired =
          ((Repair.normalize rule method.start settled).1,
            { report with
              normalized :=
                (Repair.normalize rule method.start
                  settled).2 })) ∧
      method.repair rule repaired.1 = (repaired.1, {}) := by
  intro repaired
  have hFound := of_mem_scan [] lines hMethod
  rw [List.nil_append] at hFound
  have hOver := repair_over hFound.2.1
  constructor
  · have hRounds :=
      Repair.rounds_iff.mpr
        (rfl : Repair.settle rule method.start lines = _)
    exact ⟨_, _, hRounds, hRounds.length_eq, rfl⟩
  · have hSettled :
        Repair.settle rule method.start repaired.1 =
          (repaired.1, {}) :=
      Repair.settle_of_none hOver.1 hOver.2
    have hNormal :
        Repair.normalize rule method.start repaired.1 =
          (repaired.1, 0) :=
      Repair.normalize_normalize rule method.start _
    unfold repair
    rw [hSettled]
    simp only [hNormal]

/-
  The only line that closes the method is dropped; the second
  repair finds no end of it and leaves the lines alone.
-/
theorem repair_reaches_fixed_point_endless :
    let lines : Lines :=
      ["void _generateQuestion() \x7b".toList,
        "  setState(() \x7b".toList,
        "    a();".toList,
        "  \x7d);".toList,
        "\x7d); // setState".toList]
    let method : Method :=
      { name := "_generateQuestion".toList
        start := 0
        stop := 4
        indent := []
        unit := "  ".toList }
    let repaired := method.repair Rule.standard lines
    .ok method ∈ locate Rule.standard "  ".toList lines ∧
      Block.close? repaired.1 method.start = none ∧
      method.repair Rule.standard repaired.1 =
        (repaired.1, {}) := by
  intro lines method repaired
  have hMethod : .ok method ∈
      locate Rule.standard "  ".toList lines := by
    decide +kernel
  have hEnd :
      Block.close? repaired.1 method.start = none := by
    decide +kernel
  exact ⟨hMethod, hEnd,
    (repair_reaches_fixed_point hMethod).2⟩

------------------------------------------------------------
-- Canonical Methods
------------------------------------------------------------

/-
  A method that no round is possible in only loses its
  annotations.
-/
theorem repair_of_settled
    (hClose :
      Block.close? lines method.start = some method.stop)
    (hCollapse :
      Repair.collapse? rule method.start lines = none)
    (hDrop :
      Repair.dropSurplus? rule method.start lines = none) :
    method.repair rule lines =
      (lines.take (method.start + 1) ++
          ((method.interior lines).map rule.plain ++
            lines.drop method.stop),
        { normalized :=
            (method.interior lines).countP
              rule.closesAnnotated }) := by
  rcases Block.exists_block_of_close? hClose with
    ⟨seen, decl, body, rest, rfl, hStart, hStop⟩
  have hInterior :
      method.interior (seen ++ decl :: (body ++ rest)) =
        body := by
    have hLength :
        method.stop - method.start - 1 = body.length := by
      simp only [← hStart, ← hStop, List.length_append,
        List.length_cons]
      omega
    unfold interior
    rw [hLength, ← hStart, drop_seen_cons, List.take_left]
  have hTake :
      (seen ++ decl :: (body ++ rest)).take
          (method.start + 1) =
        seen ++ [decl] := by
    rw [← hStart, List.take_length_add_append]
    rfl
  have hBehind :
      (seen ++ decl :: (body ++ rest)).drop method.stop =
        rest := by
    rw [← hStop,
      show seen ++ decl :: (body ++ rest) =
        (seen ++ decl :: body) ++ rest by simp,
      List.drop_left]
  have hNormal := Repair.normalize_block rule seen decl rest
    (by rw [hStart, hStop]; exact hClose)
  rw [hStart] at hNormal
  unfold repair
  rw [Repair.settle_of_none hCollapse hDrop, hInterior,
    hTake, hBehind]
  simp only [hNormal, List.append_assoc,
    List.singleton_append]

/-
  On a canonical method a repair makes no round: it takes the
  annotations off the closing lines in the body, whatever
  they close, and leaves all other lines alone.  So it does
  nothing exactly if no line of the body has an annotation.
-/
theorem repair_of_canonical
    (hMethod : .ok method ∈ locate rule fallback lines)
    (hState : method.bodyState rule lines = .canonical) :
    let repaired := method.repair rule lines
    repaired =
        (lines.take (method.start + 1) ++
            ((method.interior lines).map rule.plain ++
              lines.drop method.stop),
          { normalized :=
              (method.interior lines).countP
                rule.closesAnnotated }) ∧
      (repaired = (lines, {}) ↔
        ∀ line ∈ method.interior lines,
          rule.closesAnnotated line = false) := by
  intro repaired
  have hSpans :=
    Spans.of_located (located_of_mem_locate hMethod)
  have hCanonical := canonical_of_bodyState hSpans hState
  have hRepaired :=
    repair_of_settled hSpans.closes hCanonical.collapse
      hCanonical.surplus
  refine ⟨hRepaired, ?_, ?_⟩
  · intro hSame line hLine
    have hCount := congrArg
      (fun result => result.2.normalized)
      (hRepaired.symm.trans hSame)
    have hNone := List.countP_eq_zero.mp hCount line hLine
    exact Bool.eq_false_iff.mpr hNone
  · intro hPlain
    have hCount :
        (method.interior lines).countP
          rule.closesAnnotated = 0 := by
      rw [List.countP_eq_zero]
      intro line hLine
      rw [hPlain line hLine]
      decide
    rw [show repaired = _ from hRepaired, hCount,
      Rule.map_plain_eq_self hPlain,
      take_append_interior lines hSpans.lt]

/- Wrappers and closures inside a canonical one are kept. -/
theorem repair_of_canonical_nested :
    let lines : Lines :=
      ["void generateNewQuestion() \x7b".toList,
        "  setState(() \x7b".toList,
        "    setState(() \x7b".toList,
        "      a();".toList,
        "    \x7d);".toList,
        "    b.forEach((x) \x7b".toList,
        "    \x7d);".toList,
        "  \x7d);".toList,
        "\x7d".toList]
    let method : Method :=
      { name := "generateNewQuestion".toList
        start := 0
        stop := 8
        indent := []
        unit := "  ".toList }
    .ok method ∈ locate Rule.standard "  ".toList lines ∧
      method.bodyState Rule.standard lines = .canonical ∧
      method.repair Rule.standard lines = (lines, {}) := by
  intro lines method
  have hMethod : .ok method ∈
      locate Rule.standard "  ".toList lines := by
    decide +kernel
  have hState :
      method.bodyState Rule.standard lines = .canonical := by
    decide +kernel
  refine ⟨hMethod, hState, ?_⟩
  exact (repair_of_canonical hMethod hState).2.mpr
    (by decide +kernel)

/-
  A wrapper in the body of a canonical method is closed with
  an annotation, which a repair takes off.
-/
theorem repair_of_canonical_ne :
    let lines : Lines :=
      ["void generateNewQuestion() \x7b".toList,
        "  setState(() \x7b".toList,
        "    setState(() \x7b".toList,
        "      a();".toList,
        "    \x7d); // setState".toList,
        "    b();".toList,
        "  \x7d);".toList,
        "\x7d".toList]
    let method : Method :=
      { name := "generateNewQuestion".toList
        start := 0
        stop := 7
        indent := []
        unit := "  ".toList }
    let repaired := method.repair Rule.standard lines
    .ok method ∈ locate Rule.standard "  ".toList lines ∧
      method.bodyState Rule.standard lines = .canonical ∧
      repaired.2.normalized = 1 ∧
      repaired.1 =
        lines.set 4 "    \x7d);".toList ∧
      repaired.1 ≠ lines := by
  decide +kernel

end Method

end NotifyScope
