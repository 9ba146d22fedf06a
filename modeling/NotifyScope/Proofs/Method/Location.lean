import NotifyScope.Proofs.Block.Depth
import NotifyScope.Rewrite.Apply

/-
  What the search for methods finds.  Each method that it
  finds is a declaration line with the block it opens; every
  declaration line is found; and without a nested declaration
  the bodies follow each other without overlap, and no
  declaration lies in a body.

  Key definitions include:
    * `Method.Located`
    * `Method.foundLine`
    * `Method.foundEnd`
    * `Method.calm`

  Main declarations:
    * `Method.calm_scan_pairwise`
    * `Rule.located_of_mem_survey`
    * `Rule.survey_pairwise`
    * `Rule.opener_of_survey`
-/

------------------------------------------------------------
-- Single Findings
------------------------------------------------------------

namespace NotifyScope

namespace Method

/-
  A method as the search describes it: its declaration line
  opens the block that its closing line closes.
-/
structure Located
    (rule : Rule)
    (fallback : Text)
    (lines : Lines)
    (method : Method) : Prop where
  name :
    opener? rule (Lines.get lines method.start) =
      some method.name
  closes :
    Block.close? lines method.start = some method.stop
  indent :
    method.indent =
      Text.leading (Lines.get lines method.start)
  unit :
    method.unit =
      (inferUnit? (method.interior lines)
        method.indent).getD fallback

/- The indentation of a declaration is white space. -/
theorem Located.allBlank_indent
    {rule : Rule}
    {fallback : Text}
    {lines : Lines}
    {method : Method}
    (hLocated : Located rule fallback lines method) :
    Text.allBlank method.indent = true := by
  rw [hLocated.indent]
  exact Text.allBlank_leading _

/- What a body adds to an indentation is white space. -/
theorem allBlank_of_inferUnit?
    {body : Lines}
    {indent unit : Text}
    (hUnit : inferUnit? body indent = some unit) :
    Text.allBlank unit = true := by
  unfold inferUnit? at hUnit
  rcases List.exists_of_findSome?_eq_some hUnit with
    ⟨line, _, hLine⟩
  split at hLine
  · cases hLine
  · simp only at hLine
    split at hLine
    · cases hLine
      unfold Text.allBlank
      rw [List.all_eq_true]
      intro c hc
      exact List.all_eq_true.mp
        (Text.allBlank_leading line) c
        (List.mem_of_mem_drop hc)
    · cases hLine

/- So is a level of indentation. -/
theorem allBlank_getD_inferUnit?
    {fallback : Text}
    (body : Lines)
    (indent : Text)
    (hFallback : Text.allBlank fallback = true) :
    Text.allBlank
        ((inferUnit? body indent).getD fallback) =
      true := by
  cases hUnit : inferUnit? body indent with
  | none => exact hFallback
  | some unit => exact allBlank_of_inferUnit? hUnit

theorem Located.allBlank_unit
    {rule : Rule}
    {fallback : Text}
    {lines : Lines}
    {method : Method}
    (hLocated : Located rule fallback lines method)
    (hFallback : Text.allBlank fallback = true) :
    Text.allBlank method.unit = true := by
  rw [hLocated.unit]
  exact allBlank_getD_inferUnit? _ _ hFallback

/- The declaration line that a finding is about. -/
def foundLine : Except LocateError Method → Nat
  | .ok method => method.start
  | .error (.unbalanced start) => start
  | .error (.nested line _) => line

/- The last line that a finding takes up. -/
def foundEnd : Except LocateError Method → Nat
  | .ok method => method.stop
  | .error (.unbalanced start) => start
  | .error (.nested line _) => line

/- Whether a finding is a declaration inside a method. -/
def isNested : Except LocateError Method → Bool
  | .error (.nested _ _) => true
  | _ => false

/- A declaration line opens one block. -/
theorem braceBalance_of_opener?
    {rule : Rule}
    {line : Line}
    {name : Text}
    (hOpener : opener? rule line = some name) :
    Line.braceBalance line = 1 := by
  unfold opener? at hOpener
  split at hOpener
  · cases hOpener
  · split at hOpener
    · assumption
    · cases hOpener

/- A declaration line declares the name that is found. -/
theorem declaredName?_of_opener?
    {rule : Rule}
    {line : Line}
    {name : Text}
    (hOpener : opener? rule line = some name) :
    rule.declaredName? line = some name := by
  unfold opener? at hOpener
  split at hOpener
  · cases hOpener
  · split at hOpener
    · rename_i hName _
      rw [hName, hOpener]
    · cases hOpener

------------------------------------------------------------
-- One Step of the Search
------------------------------------------------------------

/- The method declared on line `i`, if `k` lines follow. -/
def declaredAt
    (fallback : Text)
    (i : Nat)
    (name : Text)
    (line : Line)
    (rest : Lines)
    (k : Nat) : Method :=
  { name
    start := i
    stop := i + 1 + k
    indent := Text.leading line
    unit :=
      (inferUnit? (rest.take k)
        (Text.leading line)).getD fallback }

theorem scan_cons_of_none
    {rule : Rule}
    {line : Line}
    (fallback : Text)
    (i : Nat)
    (body : Option (Nat × Nat))
    (rest : Lines)
    (hOpener : opener? rule line = none) :
    scan rule fallback i body (line :: rest) =
      scan rule fallback (i + 1) body rest := by
  rw [scan]
  simp only [hOpener]

theorem scan_cons_of_close
    {rule : Rule}
    {line : Line}
    {name : Text}
    {i k : Nat}
    {body : Option (Nat × Nat)}
    {rest : Lines}
    (fallback : Text)
    (hOpener : opener? rule line = some name)
    (hBody : enclosing? i body = none)
    (hClose : Block.closeOffset? 1 rest = some k) :
    scan rule fallback i body (line :: rest) =
      .ok (declaredAt fallback i name line rest k) ::
        scan rule fallback (i + 1)
          (some (i, i + 1 + k)) rest := by
  rw [scan]
  simp only [hOpener, hBody, hClose, declaredAt]

theorem scan_cons_of_enclosing
    {rule : Rule}
    {line : Line}
    {name : Text}
    {i start : Nat}
    {body : Option (Nat × Nat)}
    (fallback : Text)
    (rest : Lines)
    (hOpener : opener? rule line = some name)
    (hBody : enclosing? i body = some start) :
    scan rule fallback i body (line :: rest) =
      .error (.nested i start) ::
        scan rule fallback (i + 1) body rest := by
  rw [scan]
  simp only [hOpener, hBody]

theorem scan_cons_of_endless
    {rule : Rule}
    {line : Line}
    {name : Text}
    {i : Nat}
    {body : Option (Nat × Nat)}
    {rest : Lines}
    (fallback : Text)
    (hOpener : opener? rule line = some name)
    (hBody : enclosing? i body = none)
    (hClose : Block.closeOffset? 1 rest = none) :
    scan rule fallback i body (line :: rest) =
      .error (.unbalanced i) ::
        scan rule fallback (i + 1) body rest := by
  rw [scan]
  simp only [hOpener, hBody, hClose]

/- What the search can do with a line. -/
theorem scan_cons_cases
    (rule : Rule)
    (fallback : Text)
    (i : Nat)
    (body : Option (Nat × Nat))
    (line : Line)
    (rest : Lines) :
    (opener? rule line = none ∧
      scan rule fallback i body (line :: rest) =
        scan rule fallback (i + 1) body rest) ∨
    (∃ name, opener? rule line = some name ∧
      ((∃ start, enclosing? i body = some start ∧
          scan rule fallback i body (line :: rest) =
            .error (.nested i start) ::
              scan rule fallback (i + 1) body rest) ∨
        (enclosing? i body = none ∧
          Block.closeOffset? 1 rest = none ∧
          scan rule fallback i body (line :: rest) =
            .error (.unbalanced i) ::
              scan rule fallback (i + 1) body rest) ∨
        (enclosing? i body = none ∧
          ∃ k, Block.closeOffset? 1 rest = some k ∧
            scan rule fallback i body (line :: rest) =
              .ok
                  (declaredAt fallback i name line rest
                    k) ::
                scan rule fallback (i + 1)
                  (some (i, i + 1 + k)) rest))) := by
  cases hOpener : opener? rule line with
  | none =>
      exact .inl ⟨rfl,
        scan_cons_of_none fallback i body rest hOpener⟩
  | some name =>
      refine .inr ⟨name, rfl, ?_⟩
      cases hBody : enclosing? i body with
      | some start =>
          exact .inl ⟨start, rfl,
            scan_cons_of_enclosing fallback rest hOpener
              hBody⟩
      | none =>
          cases hClose : Block.closeOffset? 1 rest with
          | none =>
              exact .inr (.inl ⟨rfl, rfl,
                scan_cons_of_endless fallback hOpener hBody
                  hClose⟩)
          | some k =>
              exact .inr (.inr ⟨rfl, k, rfl,
                scan_cons_of_close fallback hOpener hBody
                  hClose⟩)

/- A declaration line gives one finding, which is about it. -/
theorem exists_scan_cons
    {rule : Rule}
    {line : Line}
    (fallback : Text)
    (i : Nat)
    (body : Option (Nat × Nat))
    (rest : Lines)
    (hOpener : opener? rule line ≠ none) :
    ∃ found inner, foundLine found = i ∧
      scan rule fallback i body (line :: rest) =
        found :: scan rule fallback (i + 1) inner rest := by
  rcases scan_cons_cases rule fallback i body line rest with
    ⟨hNone, _⟩ | ⟨_, _, hCases⟩
  · exact absurd hNone hOpener
  · rcases hCases with
      ⟨_, _, hScan⟩ | ⟨_, _, hScan⟩ | ⟨_, _, _, hScan⟩
    all_goals exact ⟨_, _, rfl, hScan⟩

------------------------------------------------------------
-- What Is Found
------------------------------------------------------------

/- The first line of the rest of the lines. -/
theorem get_seen_cons
    (seen : Lines)
    (line : Line)
    (rest : Lines) :
    Lines.get (seen ++ line :: rest) seen.length = line := by
  rw [Lines.get_length_append, Lines.get_cons_zero]

theorem drop_seen_cons
    (seen : Lines)
    (line : Line)
    (rest : Lines) :
    (seen ++ line :: rest).drop (seen.length + 1) =
      rest := by
  simp [List.drop_append]

/- The block opened on the first line of the rest. -/
theorem close?_seen_cons
    (seen : Lines)
    (line : Line)
    (rest : Lines) :
    Block.close? (seen ++ line :: rest) seen.length =
      (Block.closeOffset? 1 rest).map
        (seen.length + 1 + ·) := by
  unfold Block.close?
  rw [drop_seen_cons]

/- A method that the search describes is located. -/
theorem located_declaredAt
    {rule : Rule}
    {line : Line}
    {name : Text}
    {k : Nat}
    (fallback : Text)
    (seen rest : Lines)
    (hOpener : opener? rule line = some name)
    (hClose : Block.closeOffset? 1 rest = some k) :
    Located rule fallback (seen ++ line :: rest)
      (declaredAt fallback seen.length name line rest
        k) := by
  constructor
  · simpa only [declaredAt, get_seen_cons] using hOpener
  · simp only [declaredAt, close?_seen_cons, hClose,
      Option.map_some]
  · simp only [declaredAt, get_seen_cons]
  · simp only [declaredAt, interior, drop_seen_cons]
    rw [show seen.length + 1 + k - seen.length - 1 = k
      by omega]

/-
  Every finding is about a line that is not behind the place
  of the search, and methods are located.  The induction
  moves the lines one by one from the rest to those seen.
-/
theorem of_mem_scan
    {rule : Rule}
    {fallback : Text}
    {body : Option (Nat × Nat)}
    {found : Except LocateError Method}
    (seen rest : Lines)
    (hFound :
      found ∈ scan rule fallback seen.length body rest) :
    seen.length ≤ foundLine found ∧
      (opener? rule
        (Lines.get (seen ++ rest)
          (foundLine found))).isSome = true ∧
      (∀ method, found = .ok method →
        Located rule fallback (seen ++ rest) method) ∧
      (∀ start, found = .error (.unbalanced start) →
        Block.close? (seen ++ rest) start = none) := by
  induction rest generalizing seen body with
  | nil => cases hFound
  | cons line rest ih =>
      have hNext :
          ∀ inner,
            found ∈ scan rule fallback (seen.length + 1)
              inner rest →
            seen.length ≤ foundLine found ∧
              (opener? rule
                (Lines.get (seen ++ line :: rest)
                  (foundLine found))).isSome = true ∧
              (∀ method, found = .ok method →
                Located rule fallback
                  (seen ++ line :: rest) method) ∧
              (∀ start,
                found = .error (.unbalanced start) →
                Block.close? (seen ++ line :: rest) start =
                  none) := by
        intro inner hLater
        have hNext :
            found ∈
              scan rule fallback (seen ++ [line]).length
                inner rest := by
          simpa using hLater
        have hSeen := ih (seen ++ [line]) hNext
        rw [List.append_assoc, List.singleton_append,
          List.length_append, List.length_singleton]
          at hSeen
        exact ⟨by omega, hSeen.2⟩
      rcases scan_cons_cases rule fallback seen.length body
          line rest with
        ⟨_, hScan⟩ | ⟨name, hOpener, hCases⟩
      · rw [hScan] at hFound
        exact hNext body hFound
      · have hHere :
            (opener? rule
              (Lines.get (seen ++ line :: rest)
                seen.length)).isSome = true := by
          rw [get_seen_cons, hOpener]
          rfl
        rcases hCases with
          ⟨start, _, hScan⟩ | ⟨_, hClose, hScan⟩ |
            ⟨_, k, hClose, hScan⟩
        all_goals
          rw [hScan, List.mem_cons] at hFound
          rcases hFound with rfl | hLater
        · refine ⟨le_rfl, hHere, ?_, ?_⟩
          · intro method hEq
            cases hEq
          · intro start hEq
            cases hEq
        · exact hNext _ hLater
        · refine ⟨le_rfl, hHere, ?_, ?_⟩
          · intro method hEq
            cases hEq
          · intro start hEq
            cases hEq
            rw [close?_seen_cons, hClose]
            rfl
        · exact hNext _ hLater
        · refine ⟨le_rfl, hHere, ?_, ?_⟩
          · intro method hEq
            cases hEq
            exact located_declaredAt fallback seen rest
              hOpener hClose
          · intro start hEq
            cases hEq
        · exact hNext _ hLater

/- The search finds nothing above the line it starts on. -/
theorem le_foundLine_of_mem_scan
    {rule : Rule}
    {fallback : Text}
    {i : Nat}
    {body : Option (Nat × Nat)}
    {rest : Lines}
    {found : Except LocateError Method}
    (hFound : found ∈ scan rule fallback i body rest) :
    i ≤ foundLine found := by
  have hSeen := of_mem_scan (List.replicate i []) rest (by
    rw [List.length_replicate]
    exact hFound)
  rw [List.length_replicate] at hSeen
  exact hSeen.1

/- A method that is found is located. -/
theorem located_of_mem_locate
    {rule : Rule}
    {fallback : Text}
    {lines : Lines}
    {method : Method}
    (hMethod : .ok method ∈ locate rule fallback lines) :
    Located rule fallback lines method :=
  (of_mem_scan [] lines hMethod).2.2.1 method rfl

/- Every declaration line from here on is found. -/
theorem exists_mem_scan
    {rule : Rule}
    (fallback : Text)
    (body : Option (Nat × Nat))
    (seen rest : Lines)
    {i : Nat}
    (hSeen : seen.length ≤ i)
    (hOpener :
      (opener? rule
        (Lines.get (seen ++ rest) i)).isSome = true) :
    ∃ found ∈ scan rule fallback seen.length body rest,
      foundLine found = i := by
  induction rest generalizing seen body with
  | nil =>
      rw [List.append_nil, Lines.get_of_length_le hSeen]
        at hOpener
      rcases Option.isSome_iff_exists.mp hOpener with
        ⟨name, hName⟩
      have hBalance := braceBalance_of_opener? hName
      exact absurd hBalance (by decide)
  | cons line rest ih =>
      have hLater :
          seen.length ≠ i → ∀ inner,
            ∃ found ∈ scan rule fallback (seen.length + 1)
                inner rest,
              foundLine found = i := by
        intro hNe inner
        have hNext := ih inner (seen ++ [line])
          (by simp; omega) (by simpa using hOpener)
        simpa using hNext
      by_cases hNone : opener? rule line = none
      · rw [scan_cons_of_none fallback _ body rest hNone]
        apply hLater
        intro hEq
        rw [← hEq, get_seen_cons, hNone] at hOpener
        exact absurd hOpener (by decide)
      · rcases exists_scan_cons fallback seen.length body rest
            hNone with
          ⟨found, inner, hLine, hScan⟩
        rw [hScan]
        by_cases hEq : seen.length = i
        · exact ⟨found, List.mem_cons_self,
            hLine.trans hEq⟩
        · rcases hLater hEq inner with ⟨other, hMem, hOther⟩
          exact ⟨other, List.mem_cons_of_mem _ hMem, hOther⟩

/- Every declaration line is found. -/
theorem exists_mem_locate
    {rule : Rule}
    (fallback : Text)
    {lines : Lines}
    {i : Nat}
    (hOpener :
      (opener? rule (Lines.get lines i)).isSome = true) :
    ∃ found ∈ locate rule fallback lines,
      foundLine found = i :=
  exists_mem_scan fallback none [] lines (Nat.zero_le i)
    hOpener

------------------------------------------------------------
-- Order
------------------------------------------------------------

/- A line outside of a body that starts above is behind it. -/
theorem passed_of_enclosing?
    {i : Nat}
    {body : Option (Nat × Nat)}
    (hBody : ∀ start stop, body = some (start, stop) →
      start ≤ i)
    (hNone : enclosing? i body = none) :
    ∀ start stop, body = some (start, stop) → stop < i := by
  intro start stop hEq
  have hStart := hBody start stop hEq
  rw [hEq] at hNone
  unfold enclosing? at hNone
  simp only at hNone
  split at hNone
  · cases hNone
  · omega

/- The findings before the first nested declaration. -/
def calm
    (found : List (Except LocateError Method)) :
    List (Except LocateError Method) :=
  found.takeWhile fun item => !isNested item

theorem calm_cons_of_not_isNested
    {item : Except LocateError Method}
    (found : List (Except LocateError Method))
    (hItem : isNested item = false) :
    calm (item :: found) = item :: calm found :=
  List.takeWhile_cons_of_pos (by rw [hItem]; rfl)

/- Without a nested declaration these are all findings. -/
theorem calm_eq_self
    {found : List (Except LocateError Method)}
    (hNested : ∀ item ∈ found, isNested item = false) :
    calm found = found := by
  unfold calm
  rw [List.takeWhile_eq_self_iff]
  intro item hItem
  rw [hNested item hItem]
  rfl

/-
  Up to the first nested declaration the findings follow each
  other without overlap.  The search remembers the last body
  only; it suffices since every later body starts behind it.
-/
theorem calm_scan_pairwise
    {rule : Rule}
    {fallback : Text}
    {body : Option (Nat × Nat)}
    (i : Nat)
    (rest : Lines)
    (hBody : ∀ start stop, body = some (start, stop) →
      start ≤ i) :
    (∀ found ∈ calm (scan rule fallback i body rest),
        i ≤ foundLine found ∧
          ∀ start stop, body = some (start, stop) →
            stop < foundLine found) ∧
      (calm (scan rule fallback i body rest)).Pairwise
        (fun earlier later =>
          foundEnd earlier < foundLine later) := by
  induction rest generalizing i body with
  | nil =>
      refine ⟨?_, List.Pairwise.nil⟩
      intro found hFound
      cases hFound
  | cons line rest ih =>
      have hBodyNext : ∀ start stop,
          body = some (start, stop) → start ≤ i + 1 := by
        intro start stop hEq
        exact Nat.le_succ_of_le (hBody start stop hEq)
      rcases scan_cons_cases rule fallback i body line rest
          with
        ⟨_, hScan⟩ | ⟨name, _, hCases⟩
      · rw [hScan]
        rcases ih (i + 1) hBodyNext with
          ⟨hLines, hPairwise⟩
        refine ⟨?_, hPairwise⟩
        intro found hFound
        have hLine := hLines found hFound
        exact ⟨by omega, hLine.2⟩
      · rcases hCases with
          ⟨start, _, hScan⟩ | ⟨hOut, _, hScan⟩ |
            ⟨hOut, k, _, hScan⟩
        · rw [hScan]
          refine ⟨?_, List.Pairwise.nil⟩
          intro found hFound
          cases hFound
        · rw [hScan, calm_cons_of_not_isNested _ rfl]
          rcases ih (i + 1) hBodyNext with
            ⟨hLines, hPairwise⟩
          constructor
          · intro found hFound
            rcases List.mem_cons.mp hFound with
              rfl | hLater
            · exact ⟨le_rfl, passed_of_enclosing? hBody hOut⟩
            · have hLine := hLines found hLater
              exact ⟨by omega, hLine.2⟩
          · rw [List.pairwise_cons]
            refine ⟨?_, hPairwise⟩
            intro found hFound
            exact (hLines found hFound).1
        · rw [hScan, calm_cons_of_not_isNested _ rfl]
          have hInner : ∀ start stop,
              some (i, i + 1 + k) = some (start, stop) →
                start ≤ i + 1 := by
            intro start stop hEq
            cases hEq
            omega
          rcases ih (i + 1) hInner with
            ⟨hLines, hPairwise⟩
          constructor
          · intro found hFound
            rcases List.mem_cons.mp hFound with
              rfl | hLater
            · exact ⟨le_rfl, passed_of_enclosing? hBody hOut⟩
            · have hLine := hLines found hLater
              refine ⟨by omega, ?_⟩
              intro start stop hEq
              have :=
                passed_of_enclosing? hBody hOut start stop hEq
              omega
          · rw [List.pairwise_cons]
            refine ⟨?_, hPairwise⟩
            intro found hFound
            exact (hLines found hFound).2 i (i + 1 + k) rfl

/- Two such findings are the same, or one ends first. -/
theorem apart_of_mem_calm
    {rule : Rule}
    {fallback : Text}
    {lines : Lines}
    {left right : Except LocateError Method}
    (hLeft : left ∈ calm (locate rule fallback lines))
    (hRight : right ∈ calm (locate rule fallback lines)) :
    left = right ∨ foundEnd left < foundLine right ∨
      foundEnd right < foundLine left := by
  have hPairwise :
      (calm (locate rule fallback lines)).Pairwise
        (fun earlier later =>
          foundEnd earlier < foundLine later) :=
    (calm_scan_pairwise 0 lines (by simp)).2
  exact List.Pairwise.forall_of_forall_of_flip
    (R := fun left right =>
      left = right ∨ foundEnd left < foundLine right ∨
        foundEnd right < foundLine left)
    (fun _ _ => .inl rfl)
    (hPairwise.imp fun hBefore => .inr (.inl hBefore))
    (hPairwise.imp fun hBefore => .inr (.inr hBefore))
    hLeft hRight

/- A finding does not end above its declaration line. -/
theorem foundLine_le_foundEnd
    {rule : Rule}
    {fallback : Text}
    {lines : Lines}
    {found : Except LocateError Method}
    (hFound : found ∈ locate rule fallback lines) :
    foundLine found ≤ foundEnd found := by
  cases found with
  | ok method =>
      exact (Block.lt_close?
        (located_of_mem_locate hFound).closes).le
  | error failure => cases failure <;> exact le_rfl

end Method

------------------------------------------------------------
-- Surveys
------------------------------------------------------------

namespace Survey

open Method

/- A survey without a conflict met no nested declaration. -/
theorem isNested_of_conflict_eq_none
    {found : List (Except LocateError Method)}
    (hConflict : (ofFound found).conflict = none) :
    ∀ item ∈ found, isNested item = false := by
  induction found with
  | nil => simp
  | cons item found ih =>
      cases item with
      | ok method =>
          intro other hOther
          rcases List.mem_cons.mp hOther with rfl | hMem
          · rfl
          · exact ih hConflict other hMem
      | error failure =>
          cases failure with
          | unbalanced start =>
              intro other hOther
              rcases List.mem_cons.mp hOther with rfl | hMem
              · rfl
              · exact ih hConflict other hMem
          | nested line enclosing => cases hConflict

/- An empty survey names no line. -/
theorem isEmpty_iff
    {survey : Survey} :
    survey.isEmpty = true ↔
      survey.methods = [] ∧ survey.unbalanced = [] := by
  unfold isEmpty
  rw [Bool.and_eq_true, List.isEmpty_iff, List.isEmpty_iff]

/- The methods are findings, in the order of the search. -/
theorem methods_sublist
    (found : List (Except LocateError Method)) :
    ((ofFound found).methods.map Except.ok).Sublist
      found := by
  induction found with
  | nil => exact List.Sublist.slnil
  | cons item found ih =>
      cases item with
      | ok method => exact ih.cons_cons (.ok method)
      | error failure =>
          cases failure with
          | unbalanced start => exact ih.cons _
          | nested line enclosing => exact List.nil_sublist _

/- The lines without an end are findings. -/
theorem unbalanced_sublist
    (found : List (Except LocateError Method)) :
    ((ofFound found).unbalanced.map fun start =>
        Except.error (LocateError.unbalanced start)).Sublist
      found := by
  induction found with
  | nil => exact List.Sublist.slnil
  | cons item found ih =>
      cases item with
      | ok method => exact ih.cons _
      | error failure =>
          cases failure with
          | unbalanced start => exact ih.cons_cons _
          | nested line enclosing => exact List.nil_sublist _

/- Without a conflict every finding is kept. -/
theorem mem_of_conflict_eq_none
    {found : List (Except LocateError Method)}
    (hConflict : (ofFound found).conflict = none)
    {item : Except LocateError Method}
    (hItem : item ∈ found) :
    (∃ method ∈ (ofFound found).methods,
        item = .ok method) ∨
      (∃ start ∈ (ofFound found).unbalanced,
        item = .error (.unbalanced start)) := by
  induction found with
  | nil => cases hItem
  | cons first found ih =>
      have hLater :
          (ofFound found).conflict = none → item ∈ found →
            (∃ method ∈ (ofFound (first :: found)).methods,
                item = .ok method) ∨
              (∃ start ∈
                  (ofFound (first :: found)).unbalanced,
                item = .error (.unbalanced start)) := by
        intro hNone hMem
        rcases ih hNone hMem with
          ⟨method, hMethod, hEq⟩ | ⟨start, hStart, hEq⟩
        · refine .inl ⟨method, ?_, hEq⟩
          cases first with
          | ok other => exact List.mem_cons_of_mem _ hMethod
          | error failure =>
              cases failure with
              | unbalanced other => exact hMethod
              | nested line enclosing => cases hConflict
        · refine .inr ⟨start, ?_, hEq⟩
          cases first with
          | ok other => exact hStart
          | error failure =>
              cases failure with
              | unbalanced other =>
                  exact List.mem_cons_of_mem _ hStart
              | nested line enclosing => cases hConflict
      cases first with
      | ok method =>
          rcases List.mem_cons.mp hItem with rfl | hMem
          · exact .inl ⟨method, List.mem_cons_self, rfl⟩
          · exact hLater hConflict hMem
      | error failure =>
          cases failure with
          | unbalanced start =>
              rcases List.mem_cons.mp hItem with rfl | hMem
              · exact .inr ⟨start, List.mem_cons_self, rfl⟩
              · exact hLater hConflict hMem
          | nested line enclosing => cases hConflict

end Survey

namespace Rule

open Method

variable {rule : Rule} {layout : Layout} {lines : Lines}

/- What applying a rule comes to without a conflict. -/
theorem apply_eq_ok
    {work : Work}
    {unbalanced : List Nat}
    (hApply :
      rule.apply layout lines = .ok (work, unbalanced)) :
    (rule.survey layout lines).conflict = none ∧
      work =
        rule.rewrite layout (rule.survey layout lines)
          lines ∧
      unbalanced =
        (rule.survey layout lines).unbalanced := by
  unfold apply at hApply
  simp only at hApply
  split at hApply
  · cases hApply
  · rename_i hConflict
    cases hApply
    exact ⟨hConflict, rfl, rfl⟩

theorem apply_of_conflict_eq_none
    (hConflict :
      (rule.survey layout lines).conflict = none) :
    rule.apply layout lines =
      .ok
        (rule.rewrite layout (rule.survey layout lines)
            lines,
          (rule.survey layout lines).unbalanced) := by
  unfold apply
  simp only [hConflict]

/- Without a declaration a rule does nothing. -/
theorem rewrite_of_isEmpty
    {survey : Survey}
    (hEmpty : survey.isEmpty = true) :
    rule.rewrite layout survey lines = { lines } := by
  unfold rewrite
  rw [if_pos hEmpty]

/- Every method of a survey is located. -/
theorem located_of_mem_survey
    {method : Method}
    (hMethod :
      method ∈ (rule.survey layout lines).methods) :
    Located rule layout.unit lines method := by
  have hFound :=
    (Survey.methods_sublist _).subset
      (List.mem_map_of_mem (f := Except.ok) hMethod)
  exact (of_mem_scan [] lines hFound).2.2.1 method rfl

/- The methods of a survey do not overlap. -/
theorem survey_pairwise
    (hConflict :
      (rule.survey layout lines).conflict = none) :
    (rule.survey layout lines).methods.Pairwise
      (fun earlier later => earlier.stop < later.start) := by
  have hCalm := calm_eq_self
    (Survey.isNested_of_conflict_eq_none hConflict)
  have hFound :
      (calm (locate rule layout.unit lines)).Pairwise
        (fun earlier later =>
          foundEnd earlier < foundLine later) :=
    (calm_scan_pairwise 0 lines (by simp)).2
  rw [hCalm] at hFound
  have hMap := hFound.sublist (Survey.methods_sublist _)
  rw [List.pairwise_map] at hMap
  exact hMap

/- A line without an end is a declaration line. -/
theorem opener_of_mem_unbalanced
    {start : Nat}
    (hStart :
      start ∈ (rule.survey layout lines).unbalanced) :
    (opener? rule (Lines.get lines start)).isSome = true ∧
      Block.close? lines start = none := by
  have hFound :=
    (Survey.unbalanced_sublist _).subset
      (List.mem_map_of_mem
        (f := fun start =>
          Except.error (LocateError.unbalanced start))
        hStart)
  have hScan := of_mem_scan [] lines hFound
  exact ⟨hScan.2.1, hScan.2.2.2 start rfl⟩

/- Every declaration line is in the survey. -/
theorem opener_of_survey
    (hConflict :
      (rule.survey layout lines).conflict = none)
    {i : Nat}
    (hOpener :
      (opener? rule (Lines.get lines i)).isSome = true) :
    (∃ method ∈ (rule.survey layout lines).methods,
        method.start = i) ∨
      i ∈ (rule.survey layout lines).unbalanced := by
  rcases exists_mem_locate layout.unit hOpener with
    ⟨found, hFound, hLine⟩
  rcases Survey.mem_of_conflict_eq_none hConflict hFound
      with
    ⟨method, hMethod, rfl⟩ | ⟨start, hStart, rfl⟩
  · exact .inl ⟨method, hMethod, hLine⟩
  · have hEq : start = i := hLine
    rw [← hEq]
    exact .inr hStart

/- No declaration lies in the body of a method. -/
theorem opener?_inside
    (hConflict :
      (rule.survey layout lines).conflict = none)
    {method : Method}
    (hMethod :
      method ∈ (rule.survey layout lines).methods)
    {i : Nat}
    (hStart : method.start < i)
    (hStop : i ≤ method.stop) :
    opener? rule (Lines.get lines i) = none := by
  cases hOpener : opener? rule (Lines.get lines i) with
  | none => rfl
  | some name =>
      have hCalm := calm_eq_self
        (Survey.isNested_of_conflict_eq_none hConflict)
      have hOwn :=
        (Survey.methods_sublist _).subset
          (List.mem_map_of_mem (f := Except.ok) hMethod)
      rcases exists_mem_locate layout.unit
          (hOpener ▸ rfl :
            (opener? rule (Lines.get lines i)).isSome =
              true) with
        ⟨found, hFound, hLine⟩
      have hEnd := foundLine_le_foundEnd hFound
      rw [← hCalm] at hOwn hFound
      rcases apart_of_mem_calm hOwn hFound with
        hEq | hBefore | hBehind
      · rw [← hEq] at hLine
        simp only [foundLine] at hLine
        omega
      · simp only [foundEnd] at hBefore
        omega
      · have hOwnLine : foundLine (.ok method) = method.start :=
          rfl
        omega

end Rule

end NotifyScope
