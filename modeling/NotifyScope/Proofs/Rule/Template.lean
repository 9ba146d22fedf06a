import NotifyScope.Proofs.Identifier.Words
import NotifyScope.Rule.Template

/-
  What stands for a part of a template in a text.  The white
  space of the two can differ, so the text is not the part
  itself, but it has the same words in every context, and is
  bordered by identifiers only where the part is.

  Key definitions include:
    * `Template.Fits`
    * `Template.Stands`

  Main declarations:
    * `Template.exists_fits_of_dropPieces?`
    * `Template.Fits.dropPieces?_append`
    * `Template.Fits.sameWords`
    * `Template.exists_of_dropPieces?`
    * `Template.opensBlock_iff`
-/

------------------------------------------------------------
-- Pieces
------------------------------------------------------------

namespace NotifyScope

namespace Template

open Identifier

theorem pieces_cons_of_not_isBlank
    {c : Char}
    (part : Text)
    (hChar : Text.isBlank c = false) :
    pieces (c :: part) = .char c :: pieces part := by
  rw [pieces, hChar, if_neg (by decide)]

/- One piece stands for a longest run of white space. -/
theorem pieces_run_blank_append
    {run part : Text}
    (hNe : run ≠ [])
    (hRun : Text.allBlank run = true)
    (hLongest : ∀ c ∈ part.head?, Text.isBlank c = false) :
    pieces (run ++ part) = .gap :: pieces part := by
  induction run with
  | nil => exact absurd rfl hNe
  | cons c run ih =>
      unfold Text.allBlank at hRun
      rw [List.all_cons, Bool.and_eq_true] at hRun
      cases run with
      | nil =>
          cases part with
          | nil => simp [pieces, hRun.1]
          | cons d part =>
              have hOther := hLongest d rfl
              simp [pieces, hRun.1, hOther]
      | cons d run =>
          rw [List.cons_append, pieces, if_pos hRun.1,
            ih (List.cons_ne_nil d run) hRun.2]

/- A character matches itself. -/
theorem dropPieces?_char
    {c : Char}
    {text rest : Text}
    (more : List Piece) :
    dropPieces? (.char c :: more) text = some rest ↔
      ∃ next, text = c :: next ∧
        dropPieces? more next = some rest := by
  cases text with
  | nil => simp [dropPieces?]
  | cons d text =>
      rw [dropPieces?]
      split
      · rename_i hEq
        rw [hEq]
        simp
      · rename_i hNe
        constructor
        · intro hNone
          cases hNone
        · rintro ⟨next, hText, _⟩
          cases hText
          exact absurd rfl hNe

/- A gap matches all the white space there is. -/
theorem dropPieces?_gap
    {text rest : Text}
    (more : List Piece) :
    dropPieces? (.gap :: more) text = some rest ↔
      Text.leading text ≠ [] ∧
        dropPieces? more (Text.trimLeft text) =
          some rest := by
  rw [dropPieces?]
  split
  · rename_i hEmpty
    rw [List.isEmpty_iff] at hEmpty
    simp [hEmpty]
  · rename_i hEmpty
    rw [List.isEmpty_iff] at hEmpty
    simp [hEmpty]

/- White space in front of a text that starts with none. -/
theorem leading_append
    {blank text : Text}
    (hBlank : Text.allBlank blank = true)
    (hHead : ∀ c ∈ text.head?, Text.isBlank c = false) :
    Text.leading (blank ++ text) = blank ∧
      Text.trimLeft (blank ++ text) = text := by
  have hText : Text.trimLeft text = text := by
    cases text with
    | nil => rfl
    | cons c rest => exact Text.trimLeft_cons (hHead c rfl)
  have hTrim :
      Text.trimLeft (blank ++ text) = text := by
    rw [Text.trimLeft_append_left text hBlank, hText]
  refine ⟨?_, hTrim⟩
  have hWhole := Text.leading_append_trimLeft (blank ++ text)
  rw [hTrim] at hWhole
  exact List.append_cancel_right hWhole

------------------------------------------------------------
-- Texts That Stand for a Part
------------------------------------------------------------

/-
  A text that stands for a part of a template: white space
  for each longest run of it, every other character for
  itself.
-/
inductive Fits : Text → Text → Prop
  | nil : Fits [] []
  | char
      {c : Char}
      {part text : Text}
      (hChar : Text.isBlank c = false)
      (hRest : Fits part text) :
      Fits (c :: part) (c :: text)
  | gap
      {run blank part text : Text}
      (hRun : run ≠ [] ∧ Text.allBlank run = true)
      (hBlank : blank ≠ [] ∧ Text.allBlank blank = true)
      (hLongest : ∀ c ∈ part.head?, Text.isBlank c = false)
      (hRest : Fits part text) :
      Fits (run ++ part) (blank ++ text)

/- A text starts like the part that it stands for. -/
theorem Fits.isBlank_head
    {part text : Text}
    (hFits : Fits part text)
    (hHead : ∀ c ∈ part.head?, Text.isBlank c = false) :
    ∀ c ∈ text.head?, Text.isBlank c = false := by
  cases hFits with
  | nil => exact hHead
  | char hChar hRest =>
      intro c hc
      cases hc
      exact hChar
  | @gap run blank part text hRun =>
      intro c _
      rcases hRun with ⟨hNe, hAll⟩
      cases run with
      | nil => exact absurd rfl hNe
      | cons d run =>
          have hBlank := List.all_eq_true.mp hAll d
            List.mem_cons_self
          rw [hHead d rfl] at hBlank
          cases hBlank

/- Nothing stands for a part only if the part is empty. -/
theorem Fits.eq_nil
    {part text : Text}
    (hFits : Fits part text)
    (hNil : text = []) :
    part = [] := by
  cases hFits with
  | nil => rfl
  | char hChar hRest => cases hNil
  | gap hRun hBlank hLongest hRest =>
      rw [List.append_eq_nil_iff] at hNil
      exact absurd hNil.1 hBlank.1

theorem fits_nil_iff
    {text : Text} :
    Fits [] text ↔ text = [] := by
  constructor
  · intro hFits
    generalize hPart : ([] : Text) = part at hFits
    cases hFits with
    | nil => rfl
    | char => cases hPart
    | gap hRun =>
        rw [eq_comm, List.append_eq_nil_iff] at hPart
        exact absurd hPart.1 hRun.1
  · rintro rfl
    exact .nil

theorem fits_cons_iff
    {c : Char}
    {part text : Text}
    (hChar : Text.isBlank c = false) :
    Fits (c :: part) text ↔
      ∃ rest, text = c :: rest ∧ Fits part rest := by
  constructor
  · intro hFits
    generalize hPart : c :: part = whole at hFits
    cases hFits with
    | nil => cases hPart
    | char _ hRest =>
        cases hPart
        exact ⟨_, rfl, hRest⟩
    | @gap run blank part text hRun =>
        rcases List.exists_cons_of_ne_nil hRun.1 with
          ⟨d, run, rfl⟩
        cases hPart
        rw [List.all_eq_true.mp hRun.2 c
          List.mem_cons_self] at hChar
        cases hChar
  · rintro ⟨rest, rfl, hRest⟩
    exact .char hChar hRest

theorem fits_run_append_iff
    {run part text : Text}
    (hRun : run ≠ [] ∧ Text.allBlank run = true)
    (hLongest : ∀ c ∈ part.head?, Text.isBlank c = false) :
    Fits (run ++ part) text ↔
      ∃ blank rest, text = blank ++ rest ∧
        (blank ≠ [] ∧ Text.allBlank blank = true) ∧
          Fits part rest := by
  constructor
  · intro hFits
    generalize hPart : run ++ part = whole at hFits
    cases hFits with
    | nil =>
        rw [List.append_eq_nil_iff] at hPart
        exact absurd hPart.1 hRun.1
    | @char c _ _ hChar =>
        rcases List.exists_cons_of_ne_nil hRun.1 with
          ⟨d, tail, hCons⟩
        rw [hCons] at hPart
        cases hPart
        rw [List.all_eq_true.mp hRun.2 c
          (hCons ▸ List.mem_cons_self)] at hChar
        cases hChar
    | gap hOther hBlank hNext hRest =>
        -- Both cut the part behind its leading white space.
        have hSame := (leading_append hRun.2 hLongest).2
        rw [hPart, (leading_append hOther.2 hNext).2] at hSame
        subst hSame
        exact ⟨_, _, rfl, hBlank, hRest⟩
  · rintro ⟨blank, rest, rfl, hBlank, hRest⟩
    exact .gap hRun hBlank hLongest hRest

/- What is dropped in front of a text stands for the part. -/
theorem exists_fits_of_dropPieces?
    {part text rest : Text}
    (hDrop : dropPieces? (pieces part) text = some rest) :
    ∃ front, text = front ++ rest ∧ Fits part front := by
  induction part using Text.run_induction Text.isBlank
    generalizing text with
  | nil =>
      have hEq : text = rest := by
        simpa [pieces, dropPieces?] using hDrop
      exact ⟨[], hEq, .nil⟩
  | other c part hChar ih =>
      rw [pieces_cons_of_not_isBlank part hChar,
        dropPieces?_char] at hDrop
      rcases hDrop with ⟨next, rfl, hNext⟩
      rcases ih hNext with ⟨front, rfl, hFits⟩
      exact ⟨c :: front, rfl, .char hChar hFits⟩
  | run run part hNe hRun hLongest ih =>
      have hAll : Text.allBlank run = true :=
        List.all_eq_true.mpr hRun
      rw [pieces_run_blank_append hNe hAll hLongest,
        dropPieces?_gap] at hDrop
      rcases hDrop with ⟨hLeading, hNext⟩
      rcases ih hNext with ⟨front, hTrim, hFits⟩
      refine ⟨Text.leading text ++ front, ?_, ?_⟩
      · rw [List.append_assoc, ← hTrim,
          Text.leading_append_trimLeft]
      · exact .gap ⟨hNe, hAll⟩
          ⟨hLeading, Text.allBlank_leading text⟩
          hLongest hFits

/-
  What stands for a part is dropped, unless a gap at its end
  would take white space of what follows, too.
-/
theorem Fits.dropPieces?_append
    {part front rest : Text}
    (hFits : Fits part front)
    (hRest :
      (∀ c ∈ part.getLast?, Text.isBlank c = false) ∨
        ∀ c ∈ rest.head?, Text.isBlank c = false) :
    dropPieces? (pieces part) (front ++ rest) =
      some rest := by
  induction hFits with
  | nil => rfl
  | @char c part text hChar _ ih =>
      rw [pieces_cons_of_not_isBlank part hChar,
        List.cons_append, dropPieces?_char]
      refine ⟨text ++ rest, rfl, ih ?_⟩
      apply hRest.imp_left
      intro hLast d hd
      apply hLast d
      cases part with
      | nil => cases hd
      | cons e part => exact hd
  | @gap run blank part text hRun hBlank hLongest hText ih =>
      have hTail :
          (∀ c ∈ part.getLast?, Text.isBlank c = false) ∨
            ∀ c ∈ rest.head?, Text.isBlank c = false := by
        apply hRest.imp_left
        intro hLast d hd
        apply hLast d
        rw [List.getLast?_append, hd]
        rfl
      have hHead :
          ∀ c ∈ (text ++ rest).head?,
            Text.isBlank c = false := by
        intro c hc
        by_cases hNil : text = []
        · -- The part ends in a gap, so the rest starts apart.
          have hPart := hText.eq_nil hNil
          rw [hNil, List.nil_append] at hc
          rcases hRest with hLast | hOther
          · rw [hPart, List.append_nil] at hLast
            have hEnd := hLast _
              (List.getLast?_eq_some_getLast hRun.1)
            rw [List.all_eq_true.mp hRun.2 _
              (List.getLast_mem hRun.1)] at hEnd
            cases hEnd
          · exact hOther c hc
        · rw [List.head?_append_of_ne_nil _ hNil] at hc
          exact hText.isBlank_head hLongest c hc
      rw [pieces_run_blank_append hRun.1 hRun.2 hLongest,
        dropPieces?_gap, List.append_assoc,
        (leading_append hBlank.2 hHead).1,
        (leading_append hBlank.2 hHead).2]
      exact ⟨hBlank.1, ih hTail⟩

------------------------------------------------------------
-- Names in Such Texts
------------------------------------------------------------

/- A text has the words of the part that it stands for. -/
theorem Fits.sameWords
    {part text : Text}
    (hFits : Fits part text) :
    SameWords part text := by
  have hGap : ∀ {blank : Text},
      Text.allBlank blank = true →
      ∀ c ∈ blank, isPart c = false :=
    fun hBlank c hc =>
      isPart_of_isBlank (List.all_eq_true.mp hBlank c hc)
  induction hFits with
  | nil => exact .refl []
  | @char c part text _ _ ih =>
      exact (SameWords.refl [c]).append ih
  | gap hRun hBlank _ _ ih =>
      exact (SameWords.of_gaps hRun.1 (hGap hRun.2)
        hBlank.1 (hGap hBlank.2)).append ih

/- An identifier at its end is one at the end of the part. -/
theorem Fits.isPart_getLast
    {part text : Text}
    (hFits : Fits part text) :
    ∀ c ∈ text.getLast?, isPart c = true →
      ∃ d ∈ part.getLast?, isPart d = true := by
  intro e he hPart
  induction hFits with
  | nil => cases he
  | @char c part text hChar hRest ih =>
      by_cases hNil : text = []
      · rw [hNil] at he
        rw [hRest.eq_nil hNil]
        exact ⟨e, he, hPart⟩
      · rw [← List.singleton_append,
          List.getLast?_append_of_ne_nil _ hNil] at he
        rcases ih he with ⟨d, hd, hdPart⟩
        refine ⟨d, ?_, hdPart⟩
        rw [List.getLast?_cons, hd]
        rfl
  | @gap run blank part text hRun hBlank _ _ ih =>
      by_cases hNil : text = []
      · rw [hNil, List.append_nil] at he
        rw [isPart_of_isBlank (List.all_eq_true.mp hBlank.2
          e (List.mem_of_mem_getLast? he))] at hPart
        cases hPart
      · rw [List.getLast?_append_of_ne_nil _ hNil] at he
        rcases ih he with ⟨d, hd, hdPart⟩
        refine ⟨d, ?_, hdPart⟩
        rw [List.getLast?_append, hd]
        rfl

/- How a matched text is like the part that it matches. -/
structure Stands
    (part matched : Text) : Prop where
  mention : ∀ name, isName name = true →
    name ∈ tokens matched → name ∈ tokens part
  head : ∀ c ∈ matched.head?, isPart c = true →
    ∃ d ∈ part.head?, isPart d = true
  last : ∀ c ∈ matched.getLast?, isPart c = true →
    ∃ d ∈ part.getLast?, isPart d = true
  nil : matched = [] → part = []

/- A text is like the part that it stands for. -/
theorem Fits.stands
    {part text : Text}
    (hFits : Fits part text) :
    Stands part text where
  mention := by
    intro name hName hMem
    have hWords := hFits.sameWords [] []
    simp only [List.nil_append, List.append_nil] at hWords
    have hWord := mem_words.mpr ⟨hMem, hName⟩
    rw [← hWords] at hWord
    exact (mem_words.mp hWord).1
  head := by
    intro c hc hPart
    cases hFits with
    | nil => cases hc
    | char hChar hRest => exact ⟨c, hc, hPart⟩
    | gap hRun hBlank =>
        rw [List.head?_append_of_ne_nil _ hBlank.1] at hc
        rw [isPart_of_isBlank (List.all_eq_true.mp hBlank.2
          c (List.mem_of_mem_head? hc))] at hPart
        cases hPart
  last := hFits.isPart_getLast
  nil := hFits.eq_nil

/- Where a part starts apart, so does what it matches. -/
theorem Stands.isPart_head
    {part matched : Text}
    (hStands : Stands part matched)
    (hHead : ∀ c ∈ part.head?, isPart c = false) :
    ∀ c ∈ matched.head?, isPart c = false := by
  intro c hc
  by_contra hPart
  rw [Bool.not_eq_false] at hPart
  rcases hStands.head c hc hPart with ⟨d, hd, hdPart⟩
  rw [hHead d hd] at hdPart
  cases hdPart

/- Where a part ends apart, so does what it matches. -/
theorem Stands.isPart_last
    {part matched : Text}
    (hStands : Stands part matched)
    (hLast : ∀ c ∈ part.getLast?, isPart c = false) :
    ∀ c ∈ matched.getLast?, isPart c = false := by
  intro c hc
  by_contra hPart
  rw [Bool.not_eq_false] at hPart
  rcases hStands.last c hc hPart with ⟨d, hd, hdPart⟩
  rw [hLast d hd] at hdPart
  cases hdPart

/-
  A part that matches the start of a text matches it also in
  front of any other text that starts without white space.
-/
theorem exists_of_dropPieces?
    {part text rest : Text}
    (hDrop : dropPieces? (pieces part) text = some rest) :
    ∃ matched, text = matched ++ rest ∧
      Stands part matched ∧
      ∀ other,
        (∀ c ∈ other.head?, Text.isBlank c = false) →
        dropPieces? (pieces part) (matched ++ other) =
          some other := by
  rcases exists_fits_of_dropPieces? hDrop with
    ⟨matched, hText, hFits⟩
  exact ⟨matched, hText, hFits.stands,
    fun _ hOther => hFits.dropPieces?_append (.inr hOther)⟩

------------------------------------------------------------
-- The End of a Declaration Line
------------------------------------------------------------

/- What ends a declaration line, taken apart at its brace. -/
theorem opensBlock_iff
    {text : Text} :
    opensBlock text = true ↔
      ∃ space rest, text = space ++ '\x7b' :: rest ∧
        Text.allBlank space = true ∧
        Text.allBlank rest = true := by
  constructor
  · intro hOpens
    have hWhole := Text.leading_append_trimLeft text
    unfold opensBlock at hOpens
    split at hOpens
    · cases hOpens
    · rename_i c rest hTrim
      rw [Bool.and_eq_true, beq_iff_eq] at hOpens
      rw [hTrim, hOpens.1] at hWhole
      exact ⟨Text.leading text, rest, hWhole.symm,
        Text.allBlank_leading text, hOpens.2⟩
  · rintro ⟨space, rest, rfl, hSpace, hRest⟩
    unfold opensBlock
    rw [Text.trimLeft_append_left _ hSpace,
      Text.trimLeft_cons (by decide)]
    simpa using hRest

end Template

end NotifyScope
