import NotifyScope.Proofs.Lines.Filled
import NotifyScope.Proofs.Method.Location

/-
  A method that is found again once its body is replaced.  The
  search looks at whole blocks, so what matters of a body is
  only that it leads back to the level that it starts from:
  walks from declarations above either end above the method or
  pass through its body as they did before.

  Key definitions include:
    * `Method.locateAt?`

  Main declarations:
    * `Method.locateAt?_eq_some_iff`
    * `Method.mem_locate_of_body`
-/

------------------------------------------------------------
-- Walks
------------------------------------------------------------

namespace NotifyScope

namespace Block

/- A walk that ends in some lines ends there in any case. -/
theorem closeOffset?_append_of_lt
    {depth : Int}
    {seen left : Lines}
    {k : Nat}
    (right : Lines)
    (hLess : k < seen.length)
    (hClose : closeOffset? depth (seen ++ left) = some k) :
    closeOffset? depth (seen ++ right) = some k := by
  induction seen generalizing depth k with
  | nil => cases hLess
  | cons line seen ih =>
      rw [List.cons_append, closeOffset?] at hClose ⊢
      split at hClose
      · rename_i hZero
        rw [if_pos hZero]
        exact hClose
      · rename_i hZero
        rw [if_neg hZero]
        split at hClose
        · cases hClose
        · rename_i hLow
          rw [if_neg hLow]
          rw [Option.map_eq_some_iff] at hClose ⊢
          rcases hClose with ⟨j, hRest, rfl⟩
          rw [List.length_cons] at hLess
          exact ⟨j, ih (by omega) hRest, rfl⟩

/- A walk that ends nowhere, with other lines behind it. -/
theorem closeOffset?_append_eq_none
    {depth : Int}
    {left right : Lines}
    (seen : Lines)
    (hDepth : 1 ≤ depth)
    (hRight : ∀ level, 1 ≤ level →
      closeOffset? level left = none →
      closeOffset? level right = none)
    (hNone : closeOffset? depth (seen ++ left) = none) :
    closeOffset? depth (seen ++ right) = none := by
  induction seen generalizing depth with
  | nil => exact hRight depth hDepth hNone
  | cons line seen ih =>
      rw [List.cons_append, closeOffset?] at hNone ⊢
      split at hNone
      · cases hNone
      · rename_i hZero
        rw [if_neg hZero]
        split at hNone
        · rename_i hLow
          rw [if_pos hLow]
        · rename_i hLow
          rw [if_neg hLow]
          rw [Option.map_eq_none_iff] at hNone ⊢
          exact ih (by omega) hNone

/- From above a walk passes through a whole block. -/
theorem closeOffset?_block_eq_none_iff
    {decl last : Line}
    {body : Lines}
    (rest : Lines)
    (hDecl : Line.braceBalance decl = 1)
    (hBody : Lines.Runs 0 body 0)
    (hLast : Line.braceBalance last = -1)
    {level : Int}
    (hLevel : 1 ≤ level) :
    closeOffset? level (decl :: (body ++ last :: rest)) =
        none ↔
      closeOffset? level rest = none := by
  have hRaised := hBody.shift (show 0 ≤ level by omega)
  rw [Int.zero_add] at hRaised
  rw [closeOffset?]
  simp only [hDecl]
  rw [if_neg (by omega), if_neg (by omega),
    Option.map_eq_none_iff, Int.add_comm level 1,
    hRaised.closeOffset?_append, Option.map_eq_none_iff,
    closeOffset?]
  simp only [hLast]
  rw [if_neg (by omega), if_neg (by omega),
    Option.map_eq_none_iff, Int.add_right_comm,
    Int.add_right_neg, Int.zero_add]

end Block

------------------------------------------------------------
-- Findings
------------------------------------------------------------

namespace Method

variable {rule : Rule}
variable {fallback : Text}
variable {method : Method}

/- It finds no method inside of the one found last. -/
theorem lt_start_of_mem_scan
    {i start stop : Nat}
    {rest : Lines}
    (hStart : start ≤ i)
    (hMethod :
      .ok method ∈
        scan rule fallback i (some (start, stop)) rest) :
    stop < method.start := by
  induction rest generalizing i start stop with
  | nil => cases hMethod
  | cons line rest ih =>
      rcases scan_cons_cases rule fallback i
          (some (start, stop)) line rest with
        ⟨_, hScan⟩ | ⟨name, _, hCases⟩
      · rw [hScan] at hMethod
        exact ih (by omega) hMethod
      · rcases hCases with
          ⟨_, _, hScan⟩ | ⟨_, _, hScan⟩ |
            ⟨hOut, k, _, hScan⟩
        · rw [hScan, List.mem_cons] at hMethod
          rcases hMethod with hHere | hLater
          · cases hHere
          · exact ih (by omega) hLater
        · rw [hScan, List.mem_cons] at hMethod
          rcases hMethod with hHere | hLater
          · cases hHere
          · exact ih (by omega) hLater
        · have hPassed :=
            passed_of_enclosing? (i := i) (by
              rintro _ _ ⟨⟩
              exact hStart) hOut start stop rfl
          rw [hScan, List.mem_cons] at hMethod
          rcases hMethod with hHere | hLater
          · cases hHere
            exact hPassed
          · have hBehind := ih (by omega) hLater
            omega

/- A method is known by its declaration line. -/
theorem Located.ext
    {lines : Lines}
    {other : Method}
    (hLocated : Located rule fallback lines method)
    (hOther : Located rule fallback lines other)
    (hStart : method.start = other.start) :
    method = other := by
  have hName := hLocated.name
  have hStop := hLocated.closes
  have hIndent := hLocated.indent
  have hUnit := hLocated.unit
  rw [hStart, hOther.name, Option.some.injEq] at hName
  rw [hStart, hOther.closes, Option.some.injEq] at hStop
  rw [hStart, ← hOther.indent] at hIndent
  unfold interior at hUnit
  rw [hStart, ← hStop, hIndent] at hUnit
  have hOtherUnit := hOther.unit
  unfold interior at hOtherUnit
  cases method
  cases other
  simp only at hName hStart hStop hIndent hUnit hOtherUnit
  rw [← hOtherUnit] at hUnit
  subst hName hStart hStop hIndent hUnit
  rfl

/- The method that the search finds declared on a line. -/
def locateAt?
    (rule : Rule)
    (fallback : Text)
    (start : Nat)
    (lines : Lines) : Option Method :=
  (locate rule fallback lines).findSome? fun found =>
    match found with
    | .ok method =>
        if method.start = start then some method else none
    | .error _ => none

theorem locateAt?_eq_some_iff
    {lines : Lines}
    {start : Nat} :
    locateAt? rule fallback start lines = some method ↔
      .ok method ∈ locate rule fallback lines ∧
        method.start = start := by
  have hSound : ∀ other,
      locateAt? rule fallback start lines = some other →
      .ok other ∈ locate rule fallback lines ∧
        other.start = start := by
    intro other hFind
    rcases List.exists_of_findSome?_eq_some hFind with
      ⟨found, hMem, hFound⟩
    split at hFound
    · split at hFound
      · rename_i hStart
        cases hFound
        exact ⟨hMem, hStart⟩
      · cases hFound
    · cases hFound
  constructor
  · exact hSound method
  · rintro ⟨hMethod, hStart⟩
    cases hFind : locateAt? rule fallback start lines with
    | none =>
        have hNone :=
          List.findSome?_eq_none_iff.mp hFind _ hMethod
        simp only at hNone
        rw [if_pos hStart] at hNone
        cases hNone
    | some other =>
        rcases hSound other hFind with ⟨hOther, hSame⟩
        have hLeft := located_of_mem_locate hMethod
        have hRight := located_of_mem_locate hOther
        rw [hRight.ext hLeft (hSame.trans hStart.symm)]

------------------------------------------------------------
-- Other Bodies
------------------------------------------------------------

/-
  The search comes to the declaration in the same way.  The
  induction is on the lines above it: a method found there
  ends above the declaration, or that would be nested, and a
  declaration there that opens no method opens none with the
  other body either.
-/
theorem mem_scan_of_body
    {decl last : Line}
    {body other rest : Lines}
    (hName : opener? rule decl = some method.name)
    (hBody : Lines.Runs 0 body 0)
    (hOther : Lines.Runs 0 other 0)
    (hLast : Line.braceBalance last = -1)
    {i : Nat}
    {outer : Option (Nat × Nat)}
    (seen : Lines)
    (hMethod :
      .ok method ∈
        scan rule fallback i outer
          (seen ++ decl :: (body ++ last :: rest)))
    (hStart : method.start = i + seen.length) :
    .ok (declaredAt fallback method.start method.name decl
        (other ++ last :: rest) other.length) ∈
      scan rule fallback i outer
        (seen ++ decl :: (other ++ last :: rest)) := by
  have hDecl := braceBalance_of_opener? hName
  induction seen generalizing i outer with
  | nil =>
      rw [List.length_nil, Nat.add_zero] at hStart
      have hBehind : ∀ {inner : Option (Nat × Nat)},
          .ok method ∉
            scan rule fallback (i + 1) inner
              (body ++ last :: rest) := by
        intro inner hLater
        have hLe : i + 1 ≤ method.start :=
          le_foundLine_of_mem_scan hLater
        omega
      rw [List.nil_append] at hMethod ⊢
      rcases scan_cons_cases rule fallback i outer decl
          (body ++ last :: rest) with
        ⟨hNone, _⟩ | ⟨name, hOpener, hCases⟩
      · rw [hName] at hNone
        cases hNone
      · rcases hCases with
          ⟨_, _, hScan⟩ | ⟨_, _, hScan⟩ |
            ⟨hOut, k, _, hScan⟩
        · rw [hScan, List.mem_cons] at hMethod
          rcases hMethod with hHere | hLater
          · cases hHere
          · exact absurd hLater hBehind
        · rw [hScan, List.mem_cons] at hMethod
          rcases hMethod with hHere | hLater
          · cases hHere
          · exact absurd hLater hBehind
        · have hClose :
              Block.closeOffset? 1 (other ++ last :: rest) =
                some other.length := by
            have hWalk :=
              hOther.closeOffset?_append (last :: rest)
            rw [Int.add_zero] at hWalk
            rw [hWalk, Block.closeOffset?]
            simp [hLast]
          rw [scan_cons_of_close fallback hName hOut hClose,
            hStart]
          exact List.mem_cons_self
  | cons line seen ih =>
      rw [List.length_cons] at hStart
      rw [List.cons_append] at hMethod ⊢
      have hNext : ∀ {inner : Option (Nat × Nat)},
          .ok method ∈
            scan rule fallback (i + 1) inner
              (seen ++ decl :: (body ++ last :: rest)) →
          .ok (declaredAt fallback method.start method.name
              decl (other ++ last :: rest) other.length) ∈
            scan rule fallback (i + 1) inner
              (seen ++ decl :: (other ++ last :: rest)) :=
        fun hLater => ih hLater (by omega)
      rcases scan_cons_cases rule fallback i outer line
          (seen ++ decl :: (body ++ last :: rest)) with
        ⟨hNone, hScan⟩ | ⟨name, hOpener, hCases⟩
      · rw [hScan] at hMethod
        rw [scan_cons_of_none fallback i outer _ hNone]
        exact hNext hMethod
      · rcases hCases with
          ⟨start, hIn, hScan⟩ | ⟨hOut, hOpen, hScan⟩ |
            ⟨hOut, k, hClose, hScan⟩
        all_goals
          rw [hScan, List.mem_cons] at hMethod
          rcases hMethod with hHere | hLater
        · cases hHere
        · rw [scan_cons_of_enclosing fallback _ hOpener hIn]
          exact List.mem_cons_of_mem _ (hNext hLater)
        · cases hHere
        · have hStillOpen :=
            Block.closeOffset?_append_eq_none seen
              (Int.le_refl 1)
              (fun level hLevel hNone =>
                (Block.closeOffset?_block_eq_none_iff rest
                  hDecl hOther hLast hLevel).mpr
                  ((Block.closeOffset?_block_eq_none_iff rest
                    hDecl hBody hLast hLevel).mp hNone)) hOpen
          rw [scan_cons_of_endless fallback hOpener hOut
            hStillOpen]
          exact List.mem_cons_of_mem _ (hNext hLater)
        · cases hHere
          simp only [declaredAt] at hStart
          omega
        · have hPassed :=
            lt_start_of_mem_scan (Nat.le_succ i) hLater
          have hStillClosed :=
            Block.closeOffset?_append_of_lt
              (decl :: (other ++ last :: rest))
              (show k < seen.length by omega) hClose
          rw [scan_cons_of_close fallback hOpener hOut
            hStillClosed]
          exact List.mem_cons_of_mem _ (hNext hLater)

/-
  A method is found with another body in the place of its own
  one, down to the same closing line.
-/
theorem mem_locate_of_body
    {seen body other rest : Lines}
    {decl last : Line}
    (hMethod :
      .ok method ∈
        locate rule fallback
          (seen ++ decl :: (body ++ last :: rest)))
    (hStart : method.start = seen.length)
    (hBody : Lines.Runs 0 body 0)
    (hOther : Lines.Runs 0 other 0)
    (hLast : Line.braceBalance last = -1) :
    .ok (declaredAt fallback method.start method.name decl
        (other ++ last :: rest) other.length) ∈
      locate rule fallback
        (seen ++ decl :: (other ++ last :: rest)) := by
  have hName := (located_of_mem_locate hMethod).name
  rw [hStart, get_seen_cons] at hName
  exact mem_scan_of_body hName hBody hOther hLast seen hMethod
    (by rw [hStart, Nat.zero_add])

end Method

end NotifyScope
