import NotifyScope.Proofs.Rule.Standard
import NotifyScope.Proofs.Rule.Targets

/-
  The search for methods as a list of declaration lines.  Up
  to its end or its first conflict it yields one finding for
  each declaration line, in their order; the methods found do
  not overlap; and the first declaration line inside any of
  them, however far above that one starts, is the conflict.

  Key definitions include:
    * `Method.upToConflict`
    * `Method.Listing`

  Main declarations:
    * `Method.scan_increasing`
    * `Method.upToConflict_isPrefix`
    * `Method.ofFound_upToConflict`
    * `Method.listing_locate`
-/

------------------------------------------------------------
-- Listings
------------------------------------------------------------

namespace NotifyScope

namespace Method

/- The findings up to the first conflict, which is the last. -/
def upToConflict
    (found : List (Except LocateError Method)) :
    List (Except LocateError Method) :=
  calm found ++ (found.find? isNested).toList

/-
  Findings that are, up to the first conflict, all that there
  is to be found in some lines.
-/
structure Listing
    (rule : Rule)
    (fallback : Text)
    (lines : Lines)
    (found : List (Except LocateError Method)) : Prop where
  /- The findings are in the order of their lines. -/
  increasing : (found.map foundLine).Pairwise (· < ·)
  /- There is one for each declaration line. -/
  complete : ∀ i,
    i ∈ found.map foundLine ↔
      rule.Targets (Lines.get lines i) ∧
        ∀ line enclosing,
          .error (.nested line enclosing) ∈ found →
            i ≤ line
  /- A method ends where its block closes. -/
  located : ∀ method, .ok method ∈ found →
    Located rule fallback lines method
  /- Other blocks never close. -/
  unbalanced : ∀ start,
    .error (.unbalanced start) ∈ found →
      Block.close? lines start = none
  /- No two methods share a line. -/
  disjoint : (found.filterMap Except.toOption).Pairwise
    fun earlier later => earlier.stop < later.start
  /- The first declaration line in a method is a conflict. -/
  conflict : ∀ line enclosing,
    .error (.nested line enclosing) ∈ found ↔
      rule.Targets (Lines.get lines line) ∧
        (∃ method, .ok method ∈ found ∧
          method.Encloses line ∧
          method.start = enclosing) ∧
        ∀ i < line, rule.Targets (Lines.get lines i) →
          ∀ method, .ok method ∈ found →
            ¬method.Encloses i

variable {rule : Rule} {fallback : Text} {lines : Lines}
variable {found : List (Except LocateError Method)}

theorem isNested_iff
    {item : Except LocateError Method} :
    isNested item = true ↔
      ∃ line enclosing,
        item = .error (.nested line enclosing) := by
  cases item with
  | ok method => simp [isNested]
  | error failure => cases failure <;> simp [isNested]

/- Either there is no conflict, or the list ends in it. -/
theorem upToConflict_cases
    (found : List (Except LocateError Method)) :
    (found = calm found ∧
        upToConflict found = calm found) ∨
      ∃ conflict tail, isNested conflict = true ∧
        found = calm found ++ conflict :: tail ∧
        upToConflict found = calm found ++ [conflict] := by
  have hWhole : calm found ++
      found.dropWhile (fun item => !isNested item) = found :=
    List.takeWhile_append_dropWhile
  have hFirst :=
    List.find?_eq_head?_dropWhile_not isNested found
  unfold upToConflict
  cases hMore : found.dropWhile fun item => !isNested item with
  | nil =>
      rw [hMore] at hFirst hWhole
      rw [List.append_nil] at hWhole
      left
      refine ⟨hWhole.symm, ?_⟩
      rw [hFirst]
      exact List.append_nil _
  | cons conflict tail =>
      rw [hMore] at hFirst hWhole
      right
      refine ⟨conflict, tail, List.find?_some hFirst,
        hWhole.symm, ?_⟩
      rw [hFirst]
      rfl

theorem mem_upToConflict_of_mem_calm
    {item : Except LocateError Method}
    (hItem : item ∈ calm found) :
    item ∈ upToConflict found :=
  List.mem_append_left _ hItem

/- Nothing is left out in front of a conflict. -/
theorem upToConflict_isPrefix
    (found : List (Except LocateError Method)) :
    upToConflict found <+: found := by
  rcases upToConflict_cases found with
    ⟨_, hAll⟩ | ⟨conflict, tail, _, hFound, hAll⟩
  · rw [hAll]
    exact List.takeWhile_prefix _
  · refine ⟨tail, ?_⟩
    rw [hAll, List.append_assoc]
    exact hFound.symm

theorem upToConflict_subset
    {item : Except LocateError Method}
    (hItem : item ∈ upToConflict found) :
    item ∈ found :=
  (upToConflict_isPrefix found).subset hItem

/- The methods that are listed are those before a conflict. -/
theorem filterMap_upToConflict
    (found : List (Except LocateError Method)) :
    (upToConflict found).filterMap Except.toOption =
      (calm found).filterMap Except.toOption := by
  rcases upToConflict_cases found with
    ⟨_, hAll⟩ | ⟨conflict, tail, hNested, _, hAll⟩
  · rw [hAll]
  · rcases isNested_iff.mp hNested with
      ⟨line, enclosing, rfl⟩
    rw [hAll, List.filterMap_append]
    exact List.append_nil _

theorem upToConflict_cons_of_not_isNested
    {item : Except LocateError Method}
    (found : List (Except LocateError Method))
    (hItem : isNested item = false) :
    upToConflict (item :: found) =
      item :: upToConflict found := by
  unfold upToConflict
  rw [calm_cons_of_not_isNested found hItem,
    List.find?_cons_of_neg (ne_true_of_eq_false hItem)]
  rfl

/- A survey is made from the findings up to a conflict. -/
theorem ofFound_upToConflict
    (found : List (Except LocateError Method)) :
    Survey.ofFound (upToConflict found) =
      Survey.ofFound found := by
  induction found with
  | nil => rfl
  | cons item found ih =>
      cases item with
      | ok method =>
          rw [upToConflict_cons_of_not_isNested found rfl]
          simp only [Survey.ofFound, ih]
      | error failure =>
          cases failure with
          | unbalanced start =>
              rw [upToConflict_cons_of_not_isNested found rfl]
              simp only [Survey.ofFound, ih]
          | nested line enclosing => rfl

/- Findings that are no conflict come before the first one. -/
theorem mem_calm_iff
    {item : Except LocateError Method} :
    item ∈ calm found ↔
      item ∈ upToConflict found ∧
        isNested item = false := by
  constructor
  · intro hCalm
    have hItem := List.mem_takeWhile_imp hCalm
    exact ⟨mem_upToConflict_of_mem_calm hCalm,
      by simpa using hItem⟩
  · rintro ⟨hItem, hNested⟩
    rcases List.mem_append.mp hItem with hCalm | hConflict
    · exact hCalm
    · rw [Option.mem_toList] at hConflict
      rw [List.find?_some hConflict] at hNested
      cases hNested

------------------------------------------------------------
-- The Order of the Search
------------------------------------------------------------

/- The search goes on behind each line that it tells about. -/
theorem scan_increasing
    (rule : Rule)
    (fallback : Text)
    (i : Nat)
    (body : Option (Nat × Nat))
    (rest : Lines) :
    (scan rule fallback i body rest).Pairwise
      fun earlier later =>
        foundLine earlier < foundLine later := by
  induction rest generalizing i body with
  | nil => exact List.Pairwise.nil
  | cons line rest ih =>
      by_cases hNone : opener? rule line = none
      · rw [scan_cons_of_none fallback i body rest hNone]
        exact ih (i + 1) body
      · rcases exists_scan_cons fallback i body rest hNone
            with
          ⟨found, inner, hLine, hScan⟩
        rw [hScan, List.pairwise_cons]
        refine ⟨?_, ih (i + 1) inner⟩
        intro later hLater
        have hBehind := le_foundLine_of_mem_scan hLater
        omega

theorem locate_increasing
    (rule : Rule)
    (fallback : Text)
    (lines : Lines) :
    (locate rule fallback lines).Pairwise
      fun earlier later =>
        foundLine earlier < foundLine later :=
  scan_increasing rule fallback 0 none lines

------------------------------------------------------------
-- Findings and the First Conflict
------------------------------------------------------------

section Conflict

variable {item conflict : Except LocateError Method}
variable {method : Method} {i : Nat}

/- A conflict that is listed ends the list. -/
theorem exists_tail_of_conflict
    (hConflict : conflict ∈ upToConflict found)
    (hNested : isNested conflict = true) :
    ∃ tail, found = calm found ++ conflict :: tail ∧
      upToConflict found = calm found ++ [conflict] := by
  have hNotCalm : conflict ∉ calm found := by
    intro hCalm
    rw [(mem_calm_iff.mp hCalm).2] at hNested
    cases hNested
  rcases upToConflict_cases found with
    ⟨_, hAll⟩ | ⟨first, tail, _, hFound, hAll⟩
  · rw [hAll] at hConflict
    exact absurd hConflict hNotCalm
  · rw [hAll, List.mem_append, List.mem_singleton]
      at hConflict
    have hSame := hConflict.resolve_left hNotCalm
    subst hSame
    exact ⟨tail, hFound, hAll⟩

/- The findings above a conflict come before the first one. -/
theorem mem_calm_of_foundLine_lt
    (hOrder : found.Pairwise fun earlier later =>
      foundLine earlier < foundLine later)
    (hItem : item ∈ found)
    (hConflict : conflict ∈ upToConflict found)
    (hNested : isNested conflict = true)
    (hLess : foundLine item < foundLine conflict) :
    item ∈ calm found := by
  rcases exists_tail_of_conflict hConflict hNested with
    ⟨tail, hFound, _⟩
  rw [hFound, List.mem_append, List.mem_cons] at hItem
  rw [hFound, List.pairwise_append, List.pairwise_cons]
    at hOrder
  rcases hItem with hCalm | rfl | hTail
  · exact hCalm
  · exact absurd hLess (lt_irrefl _)
  · have hBehind := hOrder.2.1.1 item hTail
    omega

/- No finding is listed behind a conflict. -/
theorem foundLine_le_conflict
    (hOrder : found.Pairwise fun earlier later =>
      foundLine earlier < foundLine later)
    (hItem : item ∈ upToConflict found)
    (hConflict : conflict ∈ upToConflict found)
    (hNested : isNested conflict = true) :
    foundLine item ≤ foundLine conflict := by
  rcases exists_tail_of_conflict hConflict hNested with
    ⟨tail, hFound, hAll⟩
  rw [hAll, List.mem_append, List.mem_singleton] at hItem
  rw [hFound, List.pairwise_append] at hOrder
  rcases hItem with hCalm | rfl
  · exact (hOrder.2.2 item hCalm conflict
      List.mem_cons_self).le
  · exact le_rfl

/- All findings up to the conflict are listed. -/
theorem mem_upToConflict_of_forall
    (hOrder : found.Pairwise fun earlier later =>
      foundLine earlier < foundLine later)
    (hItem : item ∈ found)
    (hLe : ∀ conflict ∈ upToConflict found,
      isNested conflict = true →
        foundLine item ≤ foundLine conflict) :
    item ∈ upToConflict found := by
  rcases upToConflict_cases found with
    ⟨hFound, hAll⟩ | ⟨first, tail, hFirst, hFound, hAll⟩
  · rw [hAll, ← hFound]
    exact hItem
  · have hBefore := hLe first (by rw [hAll]; simp) hFirst
    rw [hFound, List.mem_append, List.mem_cons] at hItem
    rw [hFound, List.pairwise_append, List.pairwise_cons]
      at hOrder
    rw [hAll, List.mem_append, List.mem_singleton]
    rcases hItem with hCalm | rfl | hTail
    · exact .inl hCalm
    · exact .inr rfl
    · have hBehind := hOrder.2.1.1 item hTail
      omega

end Conflict

------------------------------------------------------------
-- What Is Listed
------------------------------------------------------------

/- The methods that are listed are found without conflict. -/
theorem ok_mem_calm_iff
    {method : Method} :
    .ok method ∈ calm found ↔
      .ok method ∈ upToConflict found := by
  rw [mem_calm_iff]
  exact and_iff_left rfl

/- Each of them is in the way of the lines that it encloses. -/
theorem eq_of_encloses
    {method other : Method}
    {i : Nat}
    (hMethod : .ok method ∈ upToConflict
      (locate rule fallback lines))
    (hOther : .ok other ∈ upToConflict
      (locate rule fallback lines))
    (hEncloses : method.Encloses i)
    (hAgain : other.Encloses i) :
    method = other := by
  rcases apart_of_mem_calm (ok_mem_calm_iff.mpr hMethod)
      (ok_mem_calm_iff.mpr hOther) with
    hSame | hBefore | hBehind
  · cases hSame
    rfl
  · have hStop := hEncloses.2
    have hStart := hAgain.1
    simp only [foundEnd, foundLine] at hBefore
    omega
  · have hStop := hAgain.2
    have hStart := hEncloses.1
    simp only [foundEnd, foundLine] at hBehind
    omega

/- A finding without conflict lies in no other method. -/
theorem not_encloses_of_mem_calm
    {item : Except LocateError Method}
    {method : Method}
    (hItem : item ∈ calm (locate rule fallback lines))
    (hMethod : .ok method ∈ upToConflict
      (locate rule fallback lines)) :
    ¬method.Encloses (foundLine item) := by
  rintro ⟨hStart, hStop⟩
  have hEnd := foundLine_le_foundEnd
    (upToConflict_subset (mem_upToConflict_of_mem_calm hItem))
  rcases apart_of_mem_calm (ok_mem_calm_iff.mpr hMethod)
      hItem with
    hSame | hBefore | hBehind
  · rw [← hSame] at hStart
    exact absurd hStart (lt_irrefl _)
  · simp only [foundEnd] at hBefore
    omega
  · have hOwn : foundLine (.ok method) = method.start := rfl
    omega

/- A conflict names a method that is listed before it. -/
theorem exists_encloses_of_nested
    {line enclosing : Nat}
    (hNested : .error (.nested line enclosing) ∈ upToConflict
      (locate rule fallback lines)) :
    ∃ method, .ok method ∈ upToConflict
        (locate rule fallback lines) ∧
      method.Encloses line ∧ method.start = enclosing := by
  rcases encloses_of_nested_mem_locate
      (upToConflict_subset hNested) with
    ⟨method, hMethod, hEncloses, hStart⟩
  refine ⟨method, ?_, hEncloses, hStart⟩
  exact ok_mem_calm_iff.mp (mem_calm_of_foundLine_lt
    (locate_increasing rule fallback lines) hMethod
    hNested rfl hEncloses.1)

/- A conflict is about the first line that is enclosed. -/
theorem not_encloses_of_lt_nested
    {line enclosing i : Nat}
    (hNested : .error (.nested line enclosing) ∈ upToConflict
      (locate rule fallback lines))
    (hLess : i < line)
    (hTarget : rule.Targets (Lines.get lines i))
    {method : Method}
    (hMethod : .ok method ∈ upToConflict
      (locate rule fallback lines)) :
    ¬method.Encloses i := by
  rcases hTarget.exists_mem_locate fallback with
    ⟨item, hItem, rfl⟩
  exact not_encloses_of_mem_calm
    (mem_calm_of_foundLine_lt
      (locate_increasing rule fallback lines) hItem hNested
      rfl hLess) hMethod

/- The first line that is enclosed is a conflict. -/
theorem nested_of_encloses
    {line : Nat}
    {method : Method}
    (hTarget : rule.Targets (Lines.get lines line))
    (hMethod : .ok method ∈ upToConflict
      (locate rule fallback lines))
    (hEncloses : method.Encloses line)
    (hFirst : ∀ i < line, rule.Targets (Lines.get lines i) →
      ∀ other, .ok other ∈ upToConflict
        (locate rule fallback lines) →
        ¬other.Encloses i) :
    .error (.nested line method.start) ∈ upToConflict
      (locate rule fallback lines) := by
  rcases hTarget.exists_mem_locate fallback with
    ⟨item, hItem, hLine⟩
  -- No conflict is above the line, so that it is listed.
  have hListed : item ∈ upToConflict
      (locate rule fallback lines) := by
    apply mem_upToConflict_of_forall
      (locate_increasing rule fallback lines) hItem
    intro conflict hConflict hNested
    rcases isNested_iff.mp hNested with ⟨i, enclosing, rfl⟩
    rcases exists_encloses_of_nested hConflict with
      ⟨other, hOther, hInside, _⟩
    by_contra hLess
    rw [hLine] at hLess
    exact hFirst i (not_le.mp hLess)
      (Rule.targets_of_mem_locate (upToConflict_subset hConflict))
      other hOther hInside
  cases hNested : isNested item with
  | false =>
      rw [← hLine] at hEncloses
      exact absurd hEncloses (not_encloses_of_mem_calm
        (mem_calm_iff.mpr ⟨hListed, hNested⟩) hMethod)
  | true =>
      rcases isNested_iff.mp hNested with ⟨i, enclosing, rfl⟩
      rcases exists_encloses_of_nested hListed with
        ⟨other, hOther, hInside, rfl⟩
      have hSame : i = line := hLine
      rw [hSame] at hInside hListed
      rw [eq_of_encloses hMethod hOther hEncloses hInside]
      exact hListed

/-
  The findings up to the first conflict are one for each
  declaration line up to there, in their order: the method
  with the block that the line opens, or that the block never
  closes.  The methods are disjoint, and the conflict is the
  first of these lines inside the body of any of them.
-/
theorem listing_locate
    (rule : Rule)
    (fallback : Text)
    (lines : Lines) :
    Listing rule fallback lines
      (upToConflict (locate rule fallback lines)) where
  increasing := by
    rw [List.pairwise_map]
    exact (locate_increasing rule fallback lines).sublist
      (upToConflict_isPrefix _).sublist
  complete := by
    intro i
    rw [List.mem_map]
    constructor
    · rintro ⟨item, hItem, rfl⟩
      refine ⟨Rule.targets_of_mem_locate
        (upToConflict_subset hItem), ?_⟩
      intro line enclosing hNested
      exact foundLine_le_conflict
        (locate_increasing rule fallback lines) hItem
        hNested rfl
    · rintro ⟨hTarget, hLe⟩
      rcases hTarget.exists_mem_locate fallback with
        ⟨item, hItem, rfl⟩
      refine ⟨item, ?_, rfl⟩
      apply mem_upToConflict_of_forall
        (locate_increasing rule fallback lines) hItem
      intro conflict hConflict hNested
      rcases isNested_iff.mp hNested with
        ⟨line, enclosing, rfl⟩
      exact hLe line enclosing hConflict
  located := fun _ hMethod =>
    located_of_mem_locate (upToConflict_subset hMethod)
  unbalanced := fun start hStart =>
    (of_mem_scan [] lines
      (upToConflict_subset hStart)).2.2.2 start rfl
  disjoint := by
    rw [filterMap_upToConflict, List.pairwise_filterMap]
    apply (calm_scan_pairwise 0 lines (by simp)).2.imp
    intro earlier later hBefore method hMethod other hOther
    cases earlier with
    | error failure => cases hMethod
    | ok first =>
        cases later with
        | error failure => cases hOther
        | ok second =>
            cases hMethod
            cases hOther
            exact hBefore
  conflict := by
    intro line enclosing
    constructor
    · intro hNested
      exact ⟨Rule.targets_of_mem_locate
          (upToConflict_subset hNested),
        exists_encloses_of_nested hNested,
        fun i hLess hTarget method hMethod =>
          not_encloses_of_lt_nested hNested hLess hTarget
            hMethod⟩
    · rintro ⟨hTarget, ⟨method, hMethod, hEncloses, rfl⟩,
        hFirst⟩
      exact nested_of_encloses hTarget hMethod hEncloses
        hFirst

/-
  The first declaration never closes, since the next line
  closes too much.  The third one lies in the second one,
  and the last one is not looked at any more.
-/
example :
    let old : Line := "void _generateQuestion() \x7b".toList
    let new : Line := "void generateNewQuestion() \x7b".toList
    let brace : Line := "\x7d".toList
    let lines : Lines :=
      [new, brace ++ brace, old, new, brace, brace, old]
    (upToConflict (locate Rule.standard [] lines)).map
      foundLine = [0, 2, 3] := by
  decide +kernel

end Method

end NotifyScope
