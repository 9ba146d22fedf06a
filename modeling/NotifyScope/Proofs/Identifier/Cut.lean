import NotifyScope.Proofs.Identifier.Renaming

/-
  Renaming as a substitution of tokens.  A text can be cut in
  one way only into runs of identifier characters, each as
  long as it can be, and the single characters between them;
  renaming replaces the runs that are the old name, counts
  them, and leaves none of them behind.

  Key definitions include:
    * `Identifier.Cut`

  Main declarations:
    * `Identifier.cut_iff_eq_tokens`
    * `Identifier.rename_eq_of_cut`
-/

------------------------------------------------------------
-- Cutting a Text
------------------------------------------------------------

namespace NotifyScope

namespace Identifier

/-
  A text cut into longest runs of identifier characters and
  the single characters between them.
-/
structure Cut
    (text : Text)
    (parts : List Text) : Prop where
  flatten : parts.flatten = text
  part : ∀ part ∈ parts,
    isName part = true ∨ ∃ c, isPart c = false ∧ part = [c]
  longest : parts.IsChain fun left right =>
    ¬(isName left = true ∧ isName right = true)

/- A text whose characters are identifier characters. -/
theorem isName_of_forall
    {text : Text}
    (hNe : text ≠ [])
    (hPart : ∀ c ∈ text, isPart c = true) :
    isName text = true := by
  unfold isName
  rw [List.isEmpty_eq_false_iff.mpr hNe,
    List.all_eq_true.mpr hPart]
  rfl

/- No part of a cut is empty. -/
theorem Cut.ne_nil
    {text part : Text}
    {parts : List Text}
    (hCut : Cut text parts)
    (hPart : part ∈ parts) :
    part ≠ [] := by
  rcases hCut.part part hPart with hName | ⟨c, _, rfl⟩
  · exact ne_nil_of_isName hName
  · exact List.cons_ne_nil c []

/-
  Two parts of a cut that are not both names stand apart: one
  of them is a single character of no identifier.
-/
theorem Cut.isPart_border
    {text left right : Text}
    {parts : List Text}
    (hCut : Cut text parts)
    (hLeft : left ∈ parts)
    (hRight : right ∈ parts)
    (hNot : ¬(isName left = true ∧ isName right = true)) :
    ∃ hLeftNe hRightNe,
      (isPart (left.getLast hLeftNe) &&
        isPart (right.head hRightNe)) = false := by
  refine ⟨hCut.ne_nil hLeft, hCut.ne_nil hRight, ?_⟩
  rw [Bool.and_eq_false_iff]
  rcases hCut.part left hLeft with hName | ⟨c, hPart, rfl⟩
  · rcases hCut.part right hRight with
      hOther | ⟨d, hPart, rfl⟩
    · exact absurd ⟨hName, hOther⟩ hNot
    · exact .inr hPart
  · exact .inl hPart

/- A token is a name or a single character between names. -/
theorem isName_or_of_mem_tokens
    {text token : Text}
    (hToken : token ∈ tokens text) :
    isName token = true ∨
      ∃ c, isPart c = false ∧ token = [c] := by
  induction text using run_induction with
  | nil => cases hToken
  | gap c rest hGap ih =>
      rw [tokens_cons_of_not_isPart rest hGap] at hToken
      rcases List.mem_cons.mp hToken with rfl | hRest
      · exact .inr ⟨c, hGap, rfl⟩
      · exact ih hRest
  | run run rest hNe hRun hRest ih =>
      rw [tokens_run_append rest hNe hRun hRest] at hToken
      rcases List.mem_cons.mp hToken with rfl | hLater
      · exact .inl (isName_of_forall hNe hRun)
      · exact ih hLater

/- The tokens of a text are a cut of it. -/
theorem cut_tokens
    (text : Text) :
    Cut text (tokens text) where
  flatten := flatten_tokens text
  part := fun _ hToken => isName_or_of_mem_tokens hToken
  longest := by
    apply (List.isChain_getLast_head_splitBy _ text).imp
    rintro left right ⟨hLeft, hRight, hApart⟩ ⟨hName, hNext⟩
    rw [isPart_of_mem_isName hName _
        (List.getLast_mem hLeft),
      isPart_of_mem_isName hNext _
        (List.head_mem hRight)] at hApart
    cases hApart

/- A text is cut in one way only. -/
theorem cut_iff_eq_tokens
    {text : Text}
    {parts : List Text} :
    Cut text parts ↔ parts = tokens text := by
  constructor
  · intro hCut
    refine (List.splitBy_eq_iff.mpr
      ⟨hCut.flatten.symm, ?_, ?_, ?_⟩).symm
    · intro hNil
      exact hCut.ne_nil hNil rfl
    · intro part hPart
      rcases hCut.part part hPart with hName | ⟨c, _, rfl⟩
      · apply List.Pairwise.isChain
        apply List.pairwise_of_forall_mem_list
        intro c hc d hd
        have hAll := isPart_of_mem_isName hName
        rw [hAll c hc, hAll d hd]
        rfl
      · exact List.isChain_singleton c
    · exact hCut.longest.imp_of_mem_imp
        fun left right hLeft hRight hNot =>
          hCut.isPart_border hLeft hRight hNot
  · rintro rfl
    exact cut_tokens text

------------------------------------------------------------
-- Renaming the Parts
------------------------------------------------------------

/-
  Renaming replaces each part of the one cut of a text that
  is the old name by the new text, counts these parts, and
  keeps everything else.  Where the new text is another name,
  a second renaming finds nothing.
-/
theorem rename_eq_of_cut
    {old : Text}
    (hOld : isName old = true)
    (new text : Text) :
    (∃ parts, Cut text parts ∧
      (∀ other, Cut text other → other = parts) ∧
      rename old new text =
        ((parts.map fun part =>
            if part = old then new else part).flatten,
          parts.count old)) ∧
      (isName new = true → new ≠ old →
        rename old new (rename old new text).1 =
          ((rename old new text).1, 0)) := by
  constructor
  · refine ⟨tokens text, cut_tokens text, ?_, ?_⟩
    · intro other hCut
      exact cut_iff_eq_tokens.mp hCut
    · exact rename_eq_tokens hOld new text
  · intro hNew hNe
    exact rename_rename hOld hNew hNe.symm text

/-
  A run in which the name occurs twice, with an overlap, is
  left alone; the run that is the name is replaced.
-/
theorem rename_eq_of_cut_overlapping :
    let old : Text := "aa".toList
    let new : Text := "b".toList
    let text : Text := "aaa(aa)".toList
    isName old = true ∧ isName new = true ∧ new ≠ old ∧
      Cut text
        ["aaa".toList, "(".toList, "aa".toList,
          ")".toList] ∧
      rename old new text = ("aaa(b)".toList, 1) ∧
      rename old new "aaa(b)".toList =
        ("aaa(b)".toList, 0) := by
  intro old new text
  have hOld : isName old = true := by
    decide
  have hNew : isName new = true := by
    decide
  have hNe : new ≠ old := by
    decide
  rcases rename_eq_of_cut hOld new text with
    ⟨⟨parts, hCut, _, hRename⟩, hAgain⟩
  have hTokens : tokens text =
      ["aaa".toList, "(".toList, "aa".toList,
        ")".toList] := by
    decide +kernel
  have hParts := cut_iff_eq_tokens.mp hCut
  rw [hTokens] at hParts
  subst hParts
  have hSecond := hAgain hNew hNe
  rw [hRename] at hSecond
  exact ⟨hOld, hNew, hNe, hCut, hRename, hSecond⟩

end Identifier

end NotifyScope
