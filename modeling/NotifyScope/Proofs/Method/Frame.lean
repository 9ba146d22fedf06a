import NotifyScope.Proofs.Method.State
import NotifyScope.Proofs.Rule.Renamed
import NotifyScope.Proofs.Wrapper.Collapse

/-
  What a rewrite leaves alone.  A body is edited below its
  declaration line, and a declaration at its own line and
  below; so the lines above all the methods of a rewrite stay
  as they are, and each method finds its own lines as they
  were when the ones below it are done.

  Main declarations:
    * `Method.get_rewriteBody_of_le`
    * `Method.get_rewrite_of_lt`
    * `Method.get_rewriteAll_of_lt`
-/

------------------------------------------------------------
-- Repairs
------------------------------------------------------------

namespace NotifyScope

namespace Repair

variable {rule : Rule}
variable {start i : Nat}

/- A step of a repair edits the lines behind the start. -/
theorem get_of_collapse?
    {lines next : Lines}
    (hLe : i ≤ start)
    (hCollapse : collapse? rule start lines = some next) :
    Lines.get next i = Lines.get lines i := by
  rcases collapse?_eq_some_iff.mp hCollapse with
    ⟨_, first, pair, _, hFirst, _, hPair, _, rfl⟩
  have hOrder := Wrapper.order_of_stackedAt? hPair
  have hStart := Lines.le_nextFilled? hFirst
  exact get_collapsed_before hOrder.2.1 (by omega)

theorem get_of_dropSurplus?
    {lines next : Lines}
    (hLe : i ≤ start)
    (hDrop : dropSurplus? rule start lines = some next) :
    Lines.get next i = Lines.get lines i := by
  rcases dropSurplus?_eq_some_iff.mp hDrop with
    ⟨stop, _, hClose, _, _, rfl⟩
  have hLess := Block.lt_close? hClose
  exact Lines.get_eraseIdx_of_lt _ (by omega)

/- So does settling. -/
theorem get_settle_of_le
    (lines : Lines)
    (hLe : i ≤ start) :
    Lines.get (settle rule start lines).1 i =
      Lines.get lines i := by
  apply settle_invariant fun other =>
    Lines.get other i = Lines.get lines i
  · intro before after hBefore hCollapse
    exact (get_of_collapse? hLe hCollapse).trans hBefore
  · intro before after hBefore hDrop
    exact (get_of_dropSurplus? hLe hDrop).trans hBefore
  · rfl

/- Annotations are taken off behind it, too. -/
theorem get_normalize_of_le
    (lines : Lines)
    (hLe : i ≤ start) :
    Lines.get (normalize rule start lines).1 i =
      Lines.get lines i := by
  unfold normalize
  split
  · rfl
  · simp only
    by_cases hLength : i < lines.length
    · rw [Lines.get_mapIdx _ _ hLength]
      simp only [show ¬start < i by omega, false_and,
        decide_false, Bool.false_and, Bool.false_eq_true,
        if_false]
    · rw [Lines.get_of_length_le (by simpa using hLength),
        Lines.get_of_length_le (by omega)]

end Repair

------------------------------------------------------------
-- Single Methods
------------------------------------------------------------

namespace Method

variable {rule : Rule}
variable {method : Method}
variable {lines : Lines}
variable {i : Nat}

/- A wrapper goes below the declaration line. -/
theorem get_wrap_of_le
    (reindent : Bool)
    (hLess : method.start < lines.length)
    (hLe : i ≤ method.start) :
    Lines.get (method.wrap rule reindent lines).1 i =
      Lines.get lines i := by
  unfold wrap
  simp only
  rw [List.append_assoc, Lines.get_append_left,
    Lines.get_take _ (by omega)]
  rw [List.length_take]
  omega

/- A body is rewritten below its declaration line. -/
theorem get_rewriteBody_of_le
    (reindent : Bool)
    (hLess : method.start < lines.length)
    (hLe : i ≤ method.start) :
    Lines.get (method.rewriteBody rule reindent lines).lines
        i =
      Lines.get lines i := by
  have hRepair :
      Lines.get (method.repair rule lines).1 i =
        Lines.get lines i :=
    (Repair.get_normalize_of_le _ hLe).trans
      (Repair.get_settle_of_le lines hLe)
  unfold rewriteBody
  simp only
  split
  · exact get_wrap_of_le reindent hLess hLe
  · rfl
  · exact hRepair
  · exact hRepair

/- What is above a declaration stays above it. -/
theorem get_renameDeclaration_of_lt
    (lines : Lines)
    (hLess : i < method.start) :
    Lines.get (method.renameDeclaration rule lines).1 i =
      Lines.get lines i := by
  cases hMarker : rule.marker with
  | none =>
      rw [renameDeclaration_of_none method lines hMarker,
        Lines.get_set lines hLess.ne]
  | some marker =>
      rw [renameDeclaration_of_some method lines hMarker]
      unfold Lines.insertMarker
      split
      · exact Lines.get_set lines hLess.ne _
      · simp only
        unfold Lines.get
        rw [List.getD_eq_getElem?_getD,
          List.getElem?_insertIdx_of_lt hLess,
          ← List.getD_eq_getElem?_getD]
        exact Lines.get_set lines hLess.ne _

/- A method is rewritten from its declaration line on. -/
theorem get_rewrite_of_lt
    (reindent : Bool)
    (hStart : method.start < lines.length)
    (hLess : i < method.start) :
    Lines.get (method.rewrite rule reindent lines).lines i =
      Lines.get lines i :=
  (get_renameDeclaration_of_lt _ hLess).trans
    (get_rewriteBody_of_le reindent hStart hLess.le)

------------------------------------------------------------
-- All Methods
------------------------------------------------------------

/- A method with the same lines has the same body. -/
theorem Spans.of_get_eq
    {other : Lines}
    (hSpans : Spans rule lines method.start method.stop)
    (hGet : ∀ i, i ≤ method.stop →
      Lines.get other i = Lines.get lines i) :
    Spans rule other method.start method.stop := by
  have hLess := hSpans.lt
  have hWindow :
      Lines.Window rule lines 0 other 0
        (method.stop + 1) := by
    intro i hi
    rw [Nat.zero_add, hGet i (by omega)]
    exact Rule.Alike.refl _
  have hClose :=
    hWindow.close? (i := method.start) (j := method.stop)
      (Nat.lt_succ_self _)
  rw [Nat.zero_add, Nat.zero_add] at hClose
  constructor
  · exact hClose hSpans.closes
  · rw [hGet _ hLess.le]
    exact hSpans.opener

/-
  The lines above all the methods of a rewrite stay.  The
  induction takes the topmost method last: the lines it is
  rewritten in agree with the original ones up to its end, so
  that it still has its body there.
-/
theorem get_rewriteAll_of_lt
    (reindent : Bool)
    (methods : List Method)
    (hOrder : methods.Pairwise fun earlier later =>
      earlier.stop < later.start)
    (hSpans : ∀ method ∈ methods,
      Spans rule lines method.start method.stop)
    (hAbove : ∀ method ∈ methods, i < method.start) :
    Lines.get (rewriteAll rule reindent methods lines).lines
        i =
      Lines.get lines i := by
  induction methods generalizing i with
  | nil => rfl
  | cons method methods ih =>
      rcases List.pairwise_cons.mp hOrder with
        ⟨hFirst, hRest⟩
      have hBelow : ∀ j, j ≤ method.stop →
          Lines.get
              (rewriteAll rule reindent methods lines).lines
              j =
            Lines.get lines j := by
        intro j hj
        apply ih hRest
        · exact fun other hOther =>
            hSpans other (List.mem_cons_of_mem _ hOther)
        · exact fun other hOther =>
            hj.trans_lt (hFirst other hOther)
      have hOwn := hSpans method List.mem_cons_self
      have hMoved := hOwn.of_get_eq hBelow
      have hLess := hAbove method List.mem_cons_self
      have hStart :=
        hMoved.lt.trans
          (Block.close?_lt_length hMoved.closes)
      exact (get_rewrite_of_lt reindent hStart hLess).trans
        (hBelow i (hLess.trans hOwn.lt).le)

/- The methods below one leave its lines alone. -/
theorem get_rewriteAll_of_le
    (reindent : Bool)
    {methods : List Method}
    (hOrder : (method :: methods).Pairwise
      fun earlier later => earlier.stop < later.start)
    (hSpans : ∀ other ∈ methods,
      Spans rule lines other.start other.stop)
    (hLe : i ≤ method.stop) :
    Lines.get (rewriteAll rule reindent methods lines).lines
        i =
      Lines.get lines i := by
  rcases List.pairwise_cons.mp hOrder with ⟨hFirst, hRest⟩
  exact get_rewriteAll_of_lt reindent methods hRest hSpans
    fun other hOther => hLe.trans_lt (hFirst other hOther)

end Method

end NotifyScope
