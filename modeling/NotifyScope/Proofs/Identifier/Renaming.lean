import NotifyScope.Proofs.Identifier.Tokens

/-
  Renaming replaces the tokens that are the old name and
  leaves all others alone, although the search goes by
  occurrences: one that does not stand alone lies inside a
  token, and what it takes up cannot hold a whole one.

  Key definitions include:
    * `Identifier.replaceToken`

  Main declarations:
    * `Identifier.rename_eq_tokens`
    * `Identifier.tokens_rename`
    * `Identifier.rename_append`
    * `Identifier.trim_rename`
-/

------------------------------------------------------------
-- The Search for Occurrences
------------------------------------------------------------

namespace NotifyScope

namespace Identifier

/- What becomes of a token. -/
def replaceToken
    (old new token : Text) : Text :=
  if token = old then new else token

@[simp] theorem renameFrom_nil
    (old new : Text)
    (skip : Nat)
    (before : Option Char) :
    renameFrom old new skip before [] = ([], 0) := by
  cases skip <;> rfl

/- Settled characters are passed over. -/
theorem renameFrom_append
    (old new settled text : Text)
    (before : Option Char) :
    renameFrom old new settled.length before
        (settled ++ text) =
      renameFrom old new 0 (settled.getLast?.or before)
        text := by
  induction settled generalizing before with
  | nil => rfl
  | cons c settled ih =>
      rw [List.cons_append, List.length_cons, renameFrom,
        ih]
      cases settled with
      | nil => rfl
      | cons d settled =>
          rw [List.getLast?_cons_cons]
          cases hLast : (d :: settled).getLast? with
          | none => simp at hLast
          | some e => rfl

/- A name does not start with any other character. -/
theorem not_isPrefixOf_of_not_isPart
    {old : Text}
    (hOld : isName old = true)
    {c : Char}
    (rest : Text)
    (hPart : isPart c = false) :
    old.isPrefixOf (c :: rest) = false := by
  cases old with
  | nil => exact absurd hOld (by decide)
  | cons d old =>
      have hFirst :=
        isPart_of_mem_isName hOld d List.mem_cons_self
      have hNe : d ≠ c := by
        intro hEq
        rw [hEq, hPart] at hFirst
        exact absurd hFirst (by decide)
      simp [List.isPrefixOf, hNe]

/- A character between the identifiers is kept. -/
theorem renameFrom_cons_of_not_isPart
    {old : Text}
    (hOld : isName old = true)
    (new : Text)
    (before : Option Char)
    {c : Char}
    (rest : Text)
    (hPart : isPart c = false) :
    renameFrom old new 0 before (c :: rest) =
      (c :: (renameFrom old new 0 (some c) rest).1,
        (renameFrom old new 0 (some c) rest).2) := by
  rw [renameFrom,
    not_isPrefixOf_of_not_isPart hOld rest hPart]
  rfl

/-
  What stands in front of a text matters only if the text
  goes on with an identifier character.
-/
theorem renameFrom_congr_before
    {old : Text}
    (hOld : isName old = true)
    (new : Text)
    (before other : Option Char)
    {text : Text}
    (hHead : ∀ c ∈ text.head?, isPart c = false) :
    renameFrom old new 0 before text =
      renameFrom old new 0 other text := by
  cases text with
  | nil => rw [renameFrom_nil, renameFrom_nil]
  | cons c rest =>
      have hPart : isPart c = false :=
        hHead c (by simp)
      rw [renameFrom_cons_of_not_isPart hOld new before
          rest hPart,
        renameFrom_cons_of_not_isPart hOld new other
          rest hPart]

/- A prefix of identifier characters lies inside the run. -/
theorem exists_eq_append_of_isPrefixOf
    {old run rest : Text}
    (hOld : ∀ c ∈ old, isPart c = true)
    (hRest : ∀ c ∈ rest.head?, isPart c = false)
    (hPrefix : old.isPrefixOf (run ++ rest) = true) :
    ∃ tail, run = old ++ tail := by
  rw [List.isPrefixOf_iff_prefix] at hPrefix
  rcases hPrefix with ⟨tail, hTail⟩
  rcases List.append_eq_append_iff.mp hTail with
    ⟨middle, hRun, _⟩ | ⟨middle, hOldEq, hRestEq⟩
  · exact ⟨middle, hRun⟩
  · cases middle with
    | nil =>
        rw [List.append_nil] at hOldEq
        exact ⟨[], by rw [hOldEq, List.append_nil]⟩
    | cons c middle =>
        have hPart : isPart c = true := by
          apply hOld c
          rw [hOldEq]
          simp
        have hNot : isPart c = false := by
          apply hRest c
          rw [hRestEq]
          simp
        rw [hPart] at hNot
        exact absurd hNot (by decide)

/-
  An occurrence is replaced if it stands alone, and the
  search goes on behind it.
-/
theorem renameFrom_occurrence
    {old : Text}
    (new : Text)
    (before : Option Char)
    (text : Text)
    (hNe : old ≠ []) :
    renameFrom old new 0 before (old ++ text) =
      let rest := renameFrom old new 0 old.getLast? text
      if standsAlone before text.head? then
        (new ++ rest.1, rest.2 + 1)
      else
        (old ++ rest.1, rest.2) := by
  cases old with
  | nil => exact absurd rfl hNe
  | cons c old =>
      have hPrefix :
          (c :: old).isPrefixOf (c :: (old ++ text)) =
            true := by
        rw [List.isPrefixOf_iff_prefix]
        exact ⟨text, rfl⟩
      have hDrop :
          (c :: (old ++ text)).drop (c :: old).length =
            text := by
        rw [← List.cons_append, List.drop_left]
      have hLast :
          old.getLast?.or (some c) =
            (c :: old).getLast? := by
        cases old with
        | nil => rfl
        | cons d old =>
            rw [List.getLast?_cons_cons]
            cases hGet : (d :: old).getLast? with
            | none => simp at hGet
            | some e => rfl
      have hSkip :=
        renameFrom_append (c :: old) new old text (some c)
      rw [hLast] at hSkip
      rw [List.cons_append, renameFrom, if_pos hPrefix,
        hDrop]
      simp only [List.length_cons, Nat.add_sub_cancel,
        hSkip]

/- A name ends in an identifier character. -/
theorem exists_getLast?_of_isName
    {name : Text}
    (hName : isName name = true) :
    ∃ c, name.getLast? = some c ∧ isPart c = true := by
  have hNe := ne_nil_of_isName hName
  refine ⟨name.getLast hNe,
    List.getLast?_eq_some_getLast hNe, ?_⟩
  exact isPart_of_mem_isName hName _
    (List.getLast_mem hNe)

/-
  Behind an identifier character no occurrence stands alone
  until the run ends: the induction is on the length of the
  run, since an occurrence is passed over as a whole.
-/
theorem renameFrom_inside
    {old : Text}
    (hOld : isName old = true)
    (new : Text)
    {b : Char}
    (hBefore : isPart b = true)
    (run rest : Text)
    (hRun : ∀ c ∈ run, isPart c = true)
    (hRest : ∀ c ∈ rest.head?, isPart c = false) :
    renameFrom old new 0 (some b) (run ++ rest) =
      (run ++ (renameFrom old new 0 none rest).1,
        (renameFrom old new 0 none rest).2) := by
  induction hLength : run.length using
    Nat.strong_induction_on generalizing run b with
  | _ length ih =>
      subst hLength
      cases hPrefix : old.isPrefixOf (run ++ rest) with
      | false =>
          cases run with
          | nil =>
              rw [List.nil_append, List.nil_append]
              exact renameFrom_congr_before hOld new _ _
                hRest
          | cons c run =>
              have hTail := ih run.length (by simp)
                (hRun c List.mem_cons_self) run
                (fun d hd =>
                  hRun d (List.mem_cons_of_mem c hd)) rfl
              rw [List.cons_append] at hPrefix
              rw [List.cons_append, renameFrom, hPrefix,
                if_neg (by simp), hTail]
              rfl
      | true =>
          rcases exists_eq_append_of_isPrefixOf
              (isPart_of_mem_isName hOld) hRest hPrefix with
            ⟨tail, rfl⟩
          rcases exists_getLast?_of_isName hOld with
            ⟨e, hLast, hLastPart⟩
          have hLess :
              tail.length < (old ++ tail).length := by
            have hPos := List.length_pos_iff.mpr
              (ne_nil_of_isName hOld)
            rw [List.length_append]
            omega
          have hTail := ih tail.length hLess hLastPart tail
            (fun d hd =>
              hRun d (List.mem_append_right old hd)) rfl
          have hAlone :
              standsAlone (some b) (tail ++ rest).head? =
                false := by
            simp [standsAlone, hBefore]
          rw [List.append_assoc,
            renameFrom_occurrence new (some b)
              (tail ++ rest) (ne_nil_of_isName hOld)]
          simp only [hAlone, hLast, hTail,
            Bool.false_eq_true, if_false, List.append_assoc]

/- A run is replaced if it is the old name. -/
theorem renameFrom_run
    {old : Text}
    (hOld : isName old = true)
    (new : Text)
    {before : Option Char}
    (hBefore : before.any isPart = false)
    {run : Text}
    (rest : Text)
    (hNe : run ≠ [])
    (hRun : ∀ c ∈ run, isPart c = true)
    (hRest : ∀ c ∈ rest.head?, isPart c = false) :
    renameFrom old new 0 before (run ++ rest) =
      (replaceToken old new run ++
          (renameFrom old new 0 none rest).1,
        (if run = old then 1 else 0) +
          (renameFrom old new 0 none rest).2) := by
  cases hPrefix : old.isPrefixOf (run ++ rest) with
  | false =>
      have hNotOld : run ≠ old := by
        intro hEq
        rw [← hEq, List.isPrefixOf_iff_prefix.mpr
          ⟨rest, rfl⟩] at hPrefix
        exact absurd hPrefix (by decide)
      cases run with
      | nil => exact absurd rfl hNe
      | cons c run =>
          rw [List.cons_append] at hPrefix
          rw [List.cons_append, renameFrom, hPrefix,
            if_neg (by simp),
            renameFrom_inside hOld new
              (hRun c List.mem_cons_self) run rest
              (fun d hd =>
                hRun d (List.mem_cons_of_mem c hd)) hRest]
          simp [replaceToken, hNotOld]
  | true =>
      rcases exists_eq_append_of_isPrefixOf
          (isPart_of_mem_isName hOld) hRest hPrefix with
        ⟨tail, rfl⟩
      rcases exists_getLast?_of_isName hOld with
        ⟨e, hLast, hLastPart⟩
      rw [List.append_assoc,
        renameFrom_occurrence new before (tail ++ rest)
          (ne_nil_of_isName hOld), hLast]
      cases tail with
      | nil =>
          have hAlone :
              standsAlone before rest.head? = true := by
            have hAfter : rest.head?.any isPart = false := by
              cases hHead : rest.head? with
              | none => rfl
              | some d => exact hRest d hHead
            simp [standsAlone, hBefore, hAfter]
          rw [List.nil_append,
            renameFrom_congr_before hOld new (some e) none
              hRest]
          simp [hAlone, replaceToken, Nat.add_comm]
      | cons d tail =>
          have hAlone :
              standsAlone before
                  (d :: tail ++ rest).head? = false := by
            have hPart : isPart d = true :=
              hRun d (List.mem_append_right old
                List.mem_cons_self)
            simp [standsAlone, hPart]
          have hNotOld : old ++ d :: tail ≠ old := by simp
          rw [renameFrom_inside hOld new hLastPart
            (d :: tail) rest
            (fun x hx =>
              hRun x (List.mem_append_right old hx)) hRest]
          simp only [hAlone, Bool.false_eq_true, if_false,
            replaceToken, hNotOld, List.append_assoc,
            Nat.zero_add]

------------------------------------------------------------
-- Renaming by Tokens
------------------------------------------------------------

/- The tokens of a run and of what follows it. -/
theorem tokens_run_append
    {run : Text}
    (rest : Text)
    (hNe : run ≠ [])
    (hRun : ∀ c ∈ run, isPart c = true)
    (hRest : ∀ c ∈ rest.head?, isPart c = false) :
    tokens (run ++ rest) = run :: tokens rest := by
  rw [tokens_append (apart_of_head? run hRest),
    tokens_of_forall_isPart hNe hRun]
  rfl

/-
  Renaming replaces each token that is the old name, and
  counts these tokens.
-/
theorem rename_eq_tokens
    {old : Text}
    (hOld : isName old = true)
    (new text : Text) :
    rename old new text =
      (((tokens text).map (replaceToken old new)).flatten,
        (tokens text).count old) := by
  have hSearch :
      ∀ before : Option Char,
        before.any isPart = false →
        renameFrom old new 0 before text =
          (((tokens text).map
              (replaceToken old new)).flatten,
            (tokens text).count old) := by
    induction text using run_induction with
    | nil =>
        intro before _
        rw [renameFrom_nil]
        rfl
    | gap c rest hPart ih =>
        intro before _
        have hNotOld : [c] ≠ old := by
          intro hEq
          have hPartOld :=
            isPart_of_mem_isName hOld c
              (hEq ▸ List.mem_cons_self)
          rw [hPart] at hPartOld
          exact absurd hPartOld (by decide)
        rw [renameFrom_cons_of_not_isPart hOld new before
            rest hPart,
          ih (some c) hPart,
          tokens_cons_of_not_isPart rest hPart]
        simp [replaceToken, hNotOld]
    | run run rest hNe hRun hRest ih =>
        intro before hBefore
        rw [renameFrom_run hOld new hBefore rest hNe hRun
            hRest,
          ih none rfl,
          tokens_run_append rest hNe hRun hRest]
        simp [List.count_cons, Nat.add_comm]
  unfold rename
  rw [List.isEmpty_eq_false_iff.mpr (ne_nil_of_isName hOld),
    if_neg (by decide)]
  exact hSearch none rfl

/- Texts that stand apart are renamed one by one. -/
theorem rename_append
    {old : Text}
    (hOld : isName old = true)
    (new : Text)
    {left right : Text}
    (hApart : Apart left right) :
    (rename old new (left ++ right)).1 =
      (rename old new left).1 ++
        (rename old new right).1 := by
  simp only [rename_eq_tokens hOld, tokens_append hApart,
    List.map_append, List.flatten_append]

/- A text that does not mention the name stays as it is. -/
theorem rename_eq_self
    {old : Text}
    (hOld : isName old = true)
    (new : Text)
    {text : Text}
    (hMention : old ∉ tokens text) :
    rename old new text = (text, 0) := by
  have hMap :
      (tokens text).map (replaceToken old new) =
        tokens text := by
    conv_rhs => rw [← List.map_id (tokens text)]
    apply List.map_congr_left
    intro token hToken
    unfold replaceToken
    rw [if_neg]
    · rfl
    · intro hEq
      exact hMention (hEq ▸ hToken)
  rw [rename_eq_tokens hOld, hMap, flatten_tokens,
    List.count_eq_zero.mpr hMention]

/- A text that stays as it is does not mention the name. -/
theorem rename_count_eq_zero_iff
    {old : Text}
    (hOld : isName old = true)
    (new text : Text) :
    (rename old new text).2 = 0 ↔ old ∉ tokens text := by
  rw [rename_eq_tokens hOld]
  exact List.count_eq_zero

/- White space holds no identifiers. -/
theorem not_mem_tokens_of_allBlank
    {old : Text}
    (hOld : isName old = true)
    {text : Text}
    (hBlank : Text.allBlank text = true) :
    old ∉ tokens text := by
  intro hToken
  rcases exists_getLast?_of_isName hOld with
    ⟨c, hLast, hPart⟩
  have hMem : c ∈ text := by
    rw [← flatten_tokens text]
    exact List.mem_flatten.mpr
      ⟨old, hToken, List.mem_of_mem_getLast? hLast⟩
  rw [isPart_of_isBlank
    (List.all_eq_true.mp hBlank c hMem)] at hPart
  exact absurd hPart (by decide)

theorem rename_of_allBlank
    {old : Text}
    (hOld : isName old = true)
    (new : Text)
    {text : Text}
    (hBlank : Text.allBlank text = true) :
    (rename old new text).1 = text := by
  rw [rename_eq_self hOld new
    (not_mem_tokens_of_allBlank hOld hBlank)]

/- Trimming a text takes none of its identifiers. -/
theorem rename_count_trim
    {old : Text}
    (hOld : isName old = true)
    (new text : Text) :
    (rename old new (Text.trim text)).2 =
      (rename old new text).2 := by
  rcases Text.exists_eq_append_trim text with
    ⟨front, back, hFront, hBack, hText⟩
  have hNone : ∀ blank : Text,
      Text.allBlank blank = true →
      (tokens blank).count old = 0 :=
    fun _ hBlank =>
      List.count_eq_zero.mpr
        (not_mem_tokens_of_allBlank hOld hBlank)
  rw [rename_eq_tokens hOld, rename_eq_tokens hOld]
  conv_rhs => rw [hText]
  rw [tokens_append (apart_of_allBlank_left _ hFront),
    tokens_append (apart_of_allBlank_right _ hBack)]
  simp only [List.count_append, hNone front hFront,
    hNone back hBack, Nat.zero_add, Nat.add_zero]

/- The white space around a text is left alone. -/
theorem exists_eq_append_rename
    {old : Text}
    (hOld : isName old = true)
    (new text : Text) :
    ∃ front back,
      Text.allBlank front = true ∧
        Text.allBlank back = true ∧
        text = front ++ (Text.trim text ++ back) ∧
        (rename old new text).1 =
          front ++
            ((rename old new (Text.trim text)).1 ++
              back) := by
  rcases Text.exists_eq_append_trim text with
    ⟨front, back, hFront, hBack, hText⟩
  refine ⟨front, back, hFront, hBack, hText, ?_⟩
  conv_lhs => rw [hText]
  rw [rename_append hOld new
      (apart_of_allBlank_left _ hFront),
    rename_append hOld new
      (apart_of_allBlank_right _ hBack),
    rename_of_allBlank hOld new hFront,
    rename_of_allBlank hOld new hBack]

------------------------------------------------------------
-- Renamed Text
------------------------------------------------------------

section RenamedText

variable {old new : Text}
variable (hOld : isName old = true)
variable (hNew : isName new = true)
include hOld

theorem rename_cons_of_not_isPart
    {c : Char}
    (rest : Text)
    (hPart : isPart c = false) :
    (rename old new (c :: rest)).1 =
      c :: (rename old new rest).1 := by
  have hNotOld : [c] ≠ old := by
    intro hEq
    have hPartOld :=
      isPart_of_mem_isName hOld c
        (hEq ▸ List.mem_cons_self)
    rw [hPart] at hPartOld
    exact absurd hPartOld (by decide)
  simp [rename_eq_tokens hOld,
    tokens_cons_of_not_isPart rest hPart, replaceToken,
    hNotOld]

theorem rename_run_append
    {run : Text}
    (rest : Text)
    (hNe : run ≠ [])
    (hRun : ∀ c ∈ run, isPart c = true)
    (hRest : ∀ c ∈ rest.head?, isPart c = false) :
    (rename old new (run ++ rest)).1 =
      replaceToken old new run ++
        (rename old new rest).1 := by
  simp [rename_eq_tokens hOld,
    tokens_run_append rest hNe hRun hRest]

/- A character between the identifiers stays in front. -/
theorem head?_rename_of_not_isPart
    {text : Text}
    (hHead : ∀ c ∈ text.head?, isPart c = false) :
    (rename old new text).1.head? = text.head? := by
  cases text with
  | nil => simp [rename_eq_tokens hOld]
  | cons c rest =>
      rw [rename_cons_of_not_isPart hOld rest
        (hHead c (by simp))]
      rfl

include hNew

/- A run becomes a run. -/
omit hOld in
theorem replaceToken_isName
    (old : Text)
    {run : Text}
    (hNe : run ≠ [])
    (hRun : ∀ c ∈ run, isPart c = true) :
    isName (replaceToken old new run) = true := by
  unfold replaceToken
  split
  · exact hNew
  · unfold isName
    rw [List.isEmpty_eq_false_iff.mpr hNe,
      List.all_eq_true.mpr hRun]
    rfl

/- A text that is not empty does not become empty. -/
theorem rename_ne_nil
    {text : Text}
    (hNe : text ≠ []) :
    (rename old new text).1 ≠ [] := by
  induction text using run_induction with
  | nil => exact absurd rfl hNe
  | gap c rest hPart _ =>
      rw [rename_cons_of_not_isPart hOld rest hPart]
      exact List.cons_ne_nil _ _
  | run run rest hNeRun hRun hRest _ =>
      have hName :=
        replaceToken_isName hNew old hNeRun hRun
      rw [rename_run_append hOld rest hNeRun hRun hRest]
      exact List.append_ne_nil_of_left_ne_nil
        (ne_nil_of_isName hName) _

/- Renaming keeps the border between tokens. -/
theorem tokens_rename
    (text : Text) :
    tokens (rename old new text).1 =
      (tokens text).map (replaceToken old new) := by
  induction text using run_induction with
  | nil => simp [rename_eq_tokens hOld]
  | gap c rest hPart ih =>
      have hNotOld : [c] ≠ old := by
        intro hEq
        have hPartOld :=
          isPart_of_mem_isName hOld c
            (hEq ▸ List.mem_cons_self)
        rw [hPart] at hPartOld
        exact absurd hPartOld (by decide)
      rw [rename_cons_of_not_isPart hOld rest hPart,
        tokens_cons_of_not_isPart _ hPart,
        tokens_cons_of_not_isPart _ hPart, ih]
      simp [replaceToken, hNotOld]
  | run run rest hNe hRun hRest ih =>
      have hName :=
        replaceToken_isName hNew old hNe hRun
      rw [rename_run_append hOld rest hNe hRun hRest,
        tokens_run_append rest hNe hRun hRest,
        tokens_run_append _ (ne_nil_of_isName hName)
          (isPart_of_mem_isName hName), ih]
      · rfl
      · rw [head?_rename_of_not_isPart hOld hRest]
        exact hRest

/- The old name is gone once it is replaced by another. -/
theorem not_mem_tokens_rename
    (hNe : old ≠ new)
    (text : Text) :
    old ∉ tokens (rename old new text).1 := by
  rw [tokens_rename hOld hNew, List.mem_map]
  rintro ⟨token, _, hToken⟩
  unfold replaceToken at hToken
  split at hToken
  · exact hNe hToken.symm
  · rename_i hNotOld
    exact hNotOld hToken

/- Renaming is done after one time. -/
theorem rename_rename
    (hNe : old ≠ new)
    (text : Text) :
    rename old new (rename old new text).1 =
      ((rename old new text).1, 0) :=
  rename_eq_self hOld new
    (not_mem_tokens_rename hOld hNew hNe text)

/- Renaming keeps the brace balance of a line. -/
theorem braceBalance_rename
    (text : Text) :
    Line.braceBalance (rename old new text).1 =
      Line.braceBalance text := by
  induction text using run_induction with
  | nil => simp [rename_eq_tokens hOld]
  | gap c rest hPart ih =>
      rw [rename_cons_of_not_isPart hOld rest hPart,
        Line.braceBalance_cons, Line.braceBalance_cons, ih]
  | run run rest hNe hRun hRest ih =>
      have hName :=
        replaceToken_isName hNew old hNe hRun
      rw [rename_run_append hOld rest hNe hRun hRest,
        Line.braceBalance_append, Line.braceBalance_append,
        ih,
        Line.braceBalance_eq_zero_of_forall
          (fun c hc => braceWeight_of_isPart (hRun c hc)),
        Line.braceBalance_eq_zero_of_forall
          (fun c hc => braceWeight_of_isPart
            (isPart_of_mem_isName hName c hc))]

/- No white space comes in front by renaming. -/
theorem isBlank_of_mem_head?_rename
    {text : Text}
    (hHead : ∀ c ∈ text.head?, Text.isBlank c = false) :
    ∀ c ∈ (rename old new text).1.head?,
      Text.isBlank c = false := by
  intro d hd
  induction text using run_induction with
  | nil => simp [rename_eq_tokens hOld] at hd
  | gap c rest hPart _ =>
      rw [rename_cons_of_not_isPart hOld rest hPart] at hd
      apply hHead d
      simpa using hd
  | run run rest hNe hRun hRest _ =>
      have hName :=
        replaceToken_isName hNew old hNe hRun
      rw [rename_run_append hOld rest hNe hRun hRest,
        List.head?_append_of_ne_nil _
          (ne_nil_of_isName hName)] at hd
      exact not_isBlank_of_isPart
        (isPart_of_mem_isName hName d
          (List.mem_of_mem_head? hd))

/- No white space comes to the end by renaming. -/
theorem isBlank_of_mem_getLast?_rename
    {text : Text}
    (hLast : ∀ c ∈ text.getLast?, Text.isBlank c = false) :
    ∀ c ∈ (rename old new text).1.getLast?,
      Text.isBlank c = false := by
  intro d hd
  induction text using run_induction with
  | nil => simp [rename_eq_tokens hOld] at hd
  | gap c rest hPart ih =>
      rw [rename_cons_of_not_isPart hOld rest hPart] at hd
      cases rest with
      | nil =>
          apply hLast d
          simpa [rename_eq_tokens hOld] using hd
      | cons e rest =>
          have hNe :=
            rename_ne_nil hOld hNew (List.cons_ne_nil e rest)
          apply ih
          · rw [List.getLast?_cons_cons] at hLast
            exact hLast
          · rw [← List.singleton_append,
              List.getLast?_append_of_ne_nil _ hNe] at hd
            exact hd
  | run run rest hNe hRun hRest ih =>
      have hName :=
        replaceToken_isName hNew old hNe hRun
      rw [rename_run_append hOld rest hNe hRun hRest] at hd
      cases rest with
      | nil =>
          have hMem : d ∈ replaceToken old new run := by
            simpa [rename_eq_tokens hOld] using
              List.mem_of_mem_getLast? hd
          exact not_isBlank_of_isPart
            (isPart_of_mem_isName hName d hMem)
      | cons e rest =>
          have hNeRest :=
            rename_ne_nil hOld hNew (List.cons_ne_nil e rest)
          apply ih
          · rw [List.getLast?_append_of_ne_nil _
              (List.cons_ne_nil e rest)] at hLast
            exact hLast
          · rw [List.getLast?_append_of_ne_nil _ hNeRest]
              at hd
            exact hd

/- It makes no difference which is done first. -/
theorem trim_rename
    (text : Text) :
    Text.trim (rename old new text).1 =
      (rename old new (Text.trim text)).1 := by
  rcases exists_eq_append_rename hOld new text with
    ⟨front, back, hFront, hBack, _, hRename⟩
  rw [hRename, Text.trim_append_left _ hFront,
    Text.trim_append_right _ hBack]
  apply Text.trim_eq_self
  · apply isBlank_of_mem_head?_rename hOld hNew
    intro c hc
    exact Text.isBlank_of_mem_head?_trim hc
  · apply isBlank_of_mem_getLast?_rename hOld hNew
    intro c hc
    exact Text.isBlank_of_mem_getLast?_trim hc

/- A line is blank if it is blank once it is renamed. -/
theorem allBlank_rename
    (text : Text) :
    Text.allBlank (rename old new text).1 =
      Text.allBlank text := by
  rw [Bool.eq_iff_iff, ← Text.trim_eq_nil_iff,
    ← Text.trim_eq_nil_iff, trim_rename hOld hNew]
  constructor
  · intro hNil
    by_contra hNe
    exact rename_ne_nil hOld hNew hNe hNil
  · intro hNil
    rw [hNil]
    simp [rename_eq_tokens hOld]

end RenamedText

end Identifier

end NotifyScope
