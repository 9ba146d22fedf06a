import NotifyScope.Proofs.Document.Outcome
import NotifyScope.Proofs.Identifier.Numeral
import NotifyScope.Proofs.Rule.Standard

/-
  The line numbers in the detail of a failure.  A rule takes
  them from the lines that it finds in its turn, where each
  is the number of a declaration.  In the text itself it can
  be the number of another line or of none, since the rules
  before have put lines in and taken lines out.

  Key definitions include:
    * `Lines.DeclaredAt`
    * `Transform.told`
    * `Transform.Tells`

  Main declarations:
    * `Transform.mentions_detail_iff`
    * `Transform.mem_told_run_iff`
    * `Document.mentions_detail_iff`
    * `Document.detail_points_into_text_of_singleton`
    * `Document.detail_points_into_text_iff`
-/

------------------------------------------------------------
-- Messages
------------------------------------------------------------

namespace NotifyScope

open Text

/- The message of a conflict mentions the lines of it. -/
theorem LocateError.mentions_message_iff
    (conflict : LocateError)
    (n : Nat) :
    Mentions conflict.message.toList n ↔
      ∃ i ∈ conflict.lines, n = i + 1 := by
  cases conflict with
  | unbalanced start =>
      have hMessage :
          (unbalanced start).message.toList =
            "block opened on line ".toList ++
              (numeral (start + 1) ++
                " never closes before end of file".toList) := by
        unfold message numeral
        rw [String.toList_append, String.toList_append,
          List.append_assoc]
      have hNone :
          ¬Mentions
            " never closes before end of file".toList n :=
        not_mentions_of_no_digit (by decide +kernel) n
      rw [hMessage,
        mentions_words_append_iff (by decide +kernel),
        mentions_numeral_append_iff (by decide +kernel),
        or_iff_left hNone]
      simp [LocateError.lines]
  | nested line enclosing =>
      have hSpace : Identifier.isPart ' ' = false := by decide
      have hMessage :
          (nested line enclosing).message.toList =
            "declaration on line ".toList ++
            (numeral (line + 1) ++
            (" lies inside the method declared on line ".toList ++
              numeral (enclosing + 1))) := by
        unfold message numeral
        simp only [String.toList_append, List.append_assoc]
      rw [hMessage,
        mentions_words_append_iff (by decide +kernel),
        mentions_numeral_append_iff (by simp [hSpace]),
        mentions_words_append_iff (by decide +kernel),
        mentions_numeral_iff]
      simp [LocateError.lines]

/- A list of lines mentions each of them. -/
theorem Text.mentions_intercalate_iff
    (indices : List Nat)
    (n : Nat) :
    Mentions
        (", ".intercalate
          (indices.map fun i => toString (i + 1))).toList n ↔
      ∃ i ∈ indices, n = i + 1 := by
  induction indices with
  | nil =>
      simpa using not_mentions_of_no_digit rfl n
  | cons i rest ih =>
      cases rest with
      | nil =>
          rw [List.map_singleton,
            String.intercalate_singleton]
          simp only [List.mem_singleton, exists_eq_left]
          exact mentions_numeral_iff
      | cons j later =>
          have hComma : Identifier.isPart ',' = false := by
            decide
          have hText :
              (", ".intercalate
                ((i :: j :: later).map
                  fun i => toString (i + 1))).toList =
                numeral (i + 1) ++
                  (", ".toList ++
                    (", ".intercalate
                      ((j :: later).map
                        fun i => toString (i + 1))).toList) := by
            unfold numeral
            rw [List.map_cons, List.map_cons,
              String.intercalate_cons_cons,
              String.toList_append, String.toList_append,
              List.append_assoc]
          rw [hText,
            mentions_numeral_append_iff (by simp [hComma]),
            mentions_words_append_iff (by decide +kernel),
            ih]
          exact (List.exists_mem_cons_iff
            (fun i => n = i + 1) i _).symm

------------------------------------------------------------
-- Lines That a Run Tells Of
------------------------------------------------------------

namespace Transform

/- The lines that the detail of a failure is about. -/
def told
    (transform : Transform) : List Nat :=
  match transform.conflict with
  | some conflict => conflict.lines
  | none => transform.unbalanced

/- There is a detail where there are lines to tell of. -/
theorem exists_detail
    {transform : Transform}
    (hFailed :
      transform.conflict.isSome = true ∨
        transform.unbalanced ≠ []) :
    ∃ detail, transform.detail = some detail := by
  unfold detail
  split
  · exact ⟨_, rfl⟩
  · simp_all
  · exact ⟨_, rfl⟩

/- It mentions these lines, counted from one. -/
theorem mentions_detail_iff
    {transform : Transform}
    {detail : String}
    (hDetail : transform.detail = some detail)
    (n : Nat) :
    Mentions detail.toList n ↔
      ∃ i ∈ transform.told, n = i + 1 := by
  unfold Transform.detail at hDetail
  unfold told
  split at hDetail
  · rename_i conflict hConflict
    cases hDetail
    rw [hConflict]
    exact conflict.mentions_message_iff n
  · cases hDetail
  · rename_i hConflict _
    cases hDetail
    rw [hConflict]
    simp only [String.toList_append, List.append_assoc]
    rw [mentions_words_append_iff (by decide +kernel),
      mentions_words_append_iff (by decide +kernel)]
    exact mentions_intercalate_iff transform.unbalanced n

variable {layout : Layout}
variable {rules : List Rule}
variable {lines : Lines}

/-
  Whether a turn tells of a line: as a part of its conflict,
  or as unbalanced if no turn has a conflict.
-/
def Tells
    (layout : Layout)
    (rules : List Rule)
    (lines : Lines)
    (turn : Turn)
    (i : Nat) : Prop :=
  turn ∈ turns layout rules lines ∧
    ((∃ conflict,
        (turn.survey layout).conflict = some conflict ∧
          i ∈ conflict.lines) ∨
      (run rules layout lines).conflict = none ∧
        i ∈ (turn.survey layout).unbalanced)

/- A run tells of the lines that its turns tell of. -/
theorem mem_told_run_iff
    {i : Nat} :
    i ∈ (run rules layout lines).told ↔
      ∃ turn, Tells layout rules lines turn i := by
  unfold told Tells
  cases hConflict : (run rules layout lines).conflict with
  | some conflict =>
      constructor
      · intro hMem
        rcases run_conflict_eq_some_iff.mp hConflict with
          ⟨turn, hTurn, hMeets⟩
        exact ⟨turn, hTurn, .inl ⟨conflict, hMeets, hMem⟩⟩
      · rintro ⟨turn, hTurn,
          ⟨other, hMeets, hMem⟩ | ⟨hNone, _⟩⟩
        · rw [run_conflict_eq_some_iff.mpr
            ⟨turn, hTurn, hMeets⟩] at hConflict
          cases hConflict
          exact hMem
        · cases hNone
  | none =>
      have hCompletes := run_conflict_eq_none_iff.mp hConflict
      simp only
      rw [mem_run_unbalanced_iff]
      constructor
      · rintro ⟨turn, hTurn, _, hMem⟩
        exact ⟨turn, hTurn, .inr ⟨trivial, hMem⟩⟩
      · rintro ⟨turn, hTurn,
          ⟨other, hMeets, _⟩ | ⟨_, hMem⟩⟩
        · have hNone := hCompletes turn hTurn
          unfold Turn.Completes at hNone
          rw [hMeets] at hNone
          cases hNone
        · exact ⟨turn, hTurn, hCompletes turn hTurn, hMem⟩

/- The rule of the turn targets every line told of. -/
theorem Tells.targets
    {turn : Turn}
    {i : Nat}
    (hTells : Tells layout rules lines turn i) :
    turn.rule.Targets (Lines.get turn.lines i) := by
  rcases hTells with
    ⟨_, ⟨conflict, hMeets, hMem⟩ | ⟨_, hMem⟩⟩
  · exact Rule.targets_of_mem_conflict hMeets hMem
  · exact Rule.targets_of_mem_unbalanced hMem

/- A rule that is the only one finds the lines of the run. -/
theorem Tells.lines_eq
    {rule : Rule}
    {turn : Turn}
    {i : Nat}
    (hTells : Tells layout [rule] lines turn i) :
    turn.lines = lines := by
  have hTurn := hTells.1
  rw [turns] at hTurn
  rcases List.mem_cons.mp hTurn with rfl | hLater
  · rfl
  · split at hLater <;> cases hLater

end Transform

------------------------------------------------------------
-- Documents
------------------------------------------------------------

/- Whether a rule takes the line there for a declaration. -/
def Lines.DeclaredAt
    (rules : List Rule)
    (lines : Lines)
    (i : Nat) : Prop :=
  ∃ line, lines[i]? = some line ∧
    ∃ rule ∈ rules, (rule.declaredName? line).isSome = true

/- Every line told of is a declaration in its turn. -/
theorem Transform.Tells.declaredAt
    {rules : List Rule}
    {layout : Layout}
    {lines : Lines}
    {turn : Turn}
    {i : Nat}
    (hTells : Tells layout rules lines turn i) :
    Lines.DeclaredAt rules turn.lines i :=
  ⟨_, hTells.targets.getElem?_eq, turn.rule,
    rule_mem_of_mem_turns hTells.1, hTells.targets.1⟩

namespace Document

variable {rules : List Rule}
variable {layout : Layout}
variable {name : String}
variable {text : Text}

/- A failure has a detail, which mentions what is told. -/
theorem mentions_detail_iff
    (hFailed :
      (rewrite rules layout name text).outcome =
          .failedUnbalancedBlock ∨
        (rewrite rules layout name text).outcome =
          .failedNestedSignature) :
    ∃ detail,
      (rewrite rules layout name text).detail =
          some detail ∧
        ∀ n, Mentions detail.toList n ↔
          ∃ turn i,
            Transform.Tells layout rules (Text.lines text)
                turn i ∧
              n = i + 1 := by
  rw [outcome_rewrite,
    Transform.outcome_eq_failedUnbalancedBlock_iff,
    Transform.outcome_eq_failedNestedSignature_iff]
    at hFailed
  have hTold :
      (Transform.run rules layout
          (Text.lines text)).conflict.isSome = true ∨
        (Transform.run rules layout
          (Text.lines text)).unbalanced ≠ [] :=
    hFailed.symm.imp_right And.right
  rcases Transform.exists_detail hTold with
    ⟨detail, hDetail⟩
  refine ⟨detail, hDetail, fun n => ?_⟩
  rw [Transform.mentions_detail_iff hDetail]
  simp only [Transform.mem_told_run_iff]
  exact ⟨fun ⟨i, ⟨turn, hTells⟩, hEq⟩ =>
      ⟨turn, i, hTells, hEq⟩,
    fun ⟨turn, i, hTells, hEq⟩ => ⟨i, ⟨turn, hTells⟩, hEq⟩⟩

/- With one rule the numbers are right in any case. -/
theorem detail_points_into_text_of_singleton
    {rule : Rule}
    (hFailed :
      (rewrite [rule] layout name text).outcome =
          .failedUnbalancedBlock ∨
        (rewrite [rule] layout name text).outcome =
          .failedNestedSignature) :
    ∃ detail,
      (rewrite [rule] layout name text).detail =
          some detail ∧
        ∀ n, Mentions detail.toList n →
          ∃ i, n = i + 1 ∧
            Lines.DeclaredAt [rule] (Text.lines text) i := by
  rcases mentions_detail_iff hFailed with
    ⟨detail, hDetail, hMentions⟩
  refine ⟨detail, hDetail, fun n hMentioned => ?_⟩
  rcases (hMentions n).mp hMentioned with
    ⟨turn, i, hTells, hEq⟩
  refine ⟨i, hEq, ?_⟩
  rw [← hTells.lines_eq]
  exact hTells.declaredAt

/-
  The detail of a failure mentions the lines that the turns
  tell of, each a declaration in its turn.  These are the
  numbers of declarations in the text exactly if every line
  told of stands at its place in the text, or another
  declaration does.
-/
theorem detail_points_into_text_iff
    (rules : List Rule)
    (layout : Layout)
    (name : String)
    (text : Text)
    (hFailed :
      (rewrite rules layout name text).outcome =
          .failedUnbalancedBlock ∨
        (rewrite rules layout name text).outcome =
          .failedNestedSignature) :
    let lines := Text.lines text
    let tells := Transform.Tells layout rules lines
    ∃ detail,
      (rewrite rules layout name text).detail =
          some detail ∧
        (∀ n, Mentions detail.toList n ↔
          ∃ turn i, tells turn i ∧ n = i + 1) ∧
        (∀ turn i, tells turn i →
          Lines.DeclaredAt rules turn.lines i) ∧
        ((∀ n, Mentions detail.toList n →
            ∃ i, n = i + 1 ∧
              Lines.DeclaredAt rules lines i) ↔
          ∀ turn i, tells turn i →
            turn.lines[i]? = lines[i]? ∨
              Lines.DeclaredAt rules lines i) := by
  intro lines tells
  rcases mentions_detail_iff hFailed with
    ⟨detail, hDetail, hMentions⟩
  refine ⟨detail, hDetail, hMentions,
    fun _ _ hTells => hTells.declaredAt, ?_, ?_⟩
  · intro hPoints turn i hTells
    rcases hPoints (i + 1)
      ((hMentions _).mpr ⟨turn, i, hTells, rfl⟩) with
      ⟨j, hEq, hDeclared⟩
    cases hEq
    exact .inr hDeclared
  · intro hStands n hMentioned
    rcases (hMentions n).mp hMentioned with
      ⟨turn, i, hTells, hEq⟩
    refine ⟨i, hEq, ?_⟩
    rcases hStands turn i hTells with hSame | hDeclared
    · rcases hTells.declaredAt with ⟨line, hLine, hRule⟩
      exact ⟨line, hSame ▸ hLine, hRule⟩
    · exact hDeclared

/-
  A single rule tells of the line in the text, although it
  puts lines in above it.
-/
theorem detail_points_into_text_partial :
    let layout : Layout :=
      { unit := "  ".toList, reindent := true }
    let text : Text :=
      ("void _generateQuestion() \x7b\n" ++
        "  a();\n" ++
        "\x7d\n" ++
        "\n" ++
        "class B \x7b\n" ++
        "  void _generateQuestion() \x7b\n" ++
        "    if (x) \x7b\n" ++
        "      b();\n").toList
    let document :=
      rewrite [Rule.standard] layout "partial.dart" text
    document.outcome = .failedUnbalancedBlock ∧
      document.rewritten ≠ text ∧
        ∃ detail,
          document.detail = some detail ∧
            ∀ n, Mentions detail.toList n →
              ∃ i, n = i + 1 ∧
                Lines.DeclaredAt [Rule.standard]
                  (Text.lines text) i := by
  intro layout text document
  have hFound :
      document.outcome = .failedUnbalancedBlock ∧
        document.rewritten ≠ text := by
    decide +kernel
  rcases detail_points_into_text_iff [Rule.standard] layout
      "partial.dart" text (.inl hFound.1) with
    ⟨detail, hDetail, _, _, hPoints⟩
  refine ⟨hFound.1, hFound.2, detail, hDetail,
    hPoints.mpr ?_⟩
  intro turn i hTells
  rw [hTells.lines_eq]
  exact .inl rfl

/-
  The first rule puts three lines in, and the second one
  meets its conflict on the last of the lines then, which the
  text does not have.
-/
theorem detail_points_behind_text :
    let layout : Layout :=
      { unit := "  ".toList, reindent := true }
    let other : Rule :=
      { Rule.standard with
        oldName := "_nextRound".toList
        newName := "nextRound".toList
        oldName_isName := by decide
        newName_isName := by decide }
    let rules := [Rule.standard, other]
    let text : Text :=
      ("void _generateQuestion() \x7b\n" ++
        "\x7d\n" ++
        "void _nextRound() \x7b\n" ++
        "  void _nextRound() \x7b\n" ++
        "  \x7d\n" ++
        "\x7d\n").toList
    let document := rewrite rules layout "test.dart" text
    document.outcome = .failedNestedSignature ∧
      document.rewritten = text ∧
        ∃ detail,
          document.detail = some detail ∧
            Mentions detail.toList 7 ∧
              ∀ i, 7 = i + 1 →
                ¬Lines.DeclaredAt rules
                  (Text.lines text) i := by
  intro layout other rules text document
  have hFound :
      document.outcome = .failedNestedSignature ∧
        document.rewritten = text ∧
          document.detail =
              some (LocateError.nested 6 5).message ∧
            (Text.lines text).length = 6 := by
    decide +kernel
  rcases hFound with ⟨hOutcome, hKept, hDetail, hLength⟩
  refine ⟨hOutcome, hKept, _, hDetail, ?_, ?_⟩
  · rw [LocateError.mentions_message_iff]
    exact ⟨6, List.mem_cons_self, rfl⟩
  · rintro i hEq ⟨line, hLine, _⟩
    cases hEq
    rw [List.getElem?_eq_none (Nat.le_of_eq hLength)]
      at hLine
    cases hLine

end Document

end NotifyScope
