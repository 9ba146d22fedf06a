import NotifyScope.Proofs.Identifier.Renaming

/-
  A name occurs in a text where it stands as an identifier of
  its own, with no identifier character on either side.  The
  names that occur are the tokens of the text; so a renaming
  leaves no occurrence of the old name behind.

  Key definitions include:
    * `Identifier.Occurs`

  Main declarations:
    * `Identifier.occurs_iff_mem_tokens`
    * `Identifier.occurs_append`
    * `Identifier.not_occurs_rename`
-/

------------------------------------------------------------
-- Occurrences
------------------------------------------------------------

namespace NotifyScope

namespace Identifier

/-
  Whether a name stands in a text as a longest run of
  identifier characters.
-/
def Occurs
    (name text : Text) : Prop :=
  ∃ front back,
    text = front ++ (name ++ back) ∧
      standsAlone front.getLast? back.head? = true

/- What stands on the two sides of an occurrence. -/
theorem standsAlone_iff
    {before after : Option Char} :
    standsAlone before after = true ↔
      (∀ c ∈ before, isPart c = false) ∧
        ∀ c ∈ after, isPart c = false := by
  cases before <;> cases after <;>
    simp [standsAlone]

/- An occurrence is a token. -/
theorem Occurs.mem_tokens
    {name text : Text}
    (hName : isName name = true)
    (hOccurs : Occurs name text) :
    name ∈ tokens text := by
  rcases hOccurs with ⟨front, back, rfl, hAlone⟩
  rcases standsAlone_iff.mp hAlone with ⟨hFront, hBack⟩
  rw [tokens_append (apart_of_getLast? _ hFront),
    tokens_run_append back (ne_nil_of_isName hName)
      (isPart_of_mem_isName hName) hBack]
  exact List.mem_append_right _ List.mem_cons_self

/- An occurrence is one in every longer text, too. -/
theorem Occurs.append_left
    {name text : Text}
    (left : Text)
    (hNe : name ≠ [])
    (hName : ∀ c ∈ name, isPart c = true)
    (hApart : Apart left text)
    (hOccurs : Occurs name text) :
    Occurs name (left ++ text) := by
  rcases hOccurs with ⟨front, back, rfl, hAlone⟩
  rcases standsAlone_iff.mp hAlone with ⟨hFront, hBack⟩
  refine ⟨left ++ front, back, by simp,
    standsAlone_iff.mpr ⟨?_, hBack⟩⟩
  cases front with
  | nil =>
      intro c hc
      rw [List.append_nil] at hc
      obtain ⟨d, rest, rfl⟩ := List.exists_cons_of_ne_nil hNe
      have hNot := hApart c hc d rfl
      rw [hName d List.mem_cons_self, Bool.and_true] at hNot
      exact hNot
  | cons d front =>
      intro c hc
      apply hFront c
      rw [List.getLast?_append_of_ne_nil _
        (List.cons_ne_nil d front)] at hc
      exact hc

/- A name that is a token occurs. -/
theorem occurs_of_mem_tokens
    {name text : Text}
    (hName : isName name = true)
    (hToken : name ∈ tokens text) :
    Occurs name text := by
  have hPart := isPart_of_mem_isName hName
  have hNe := ne_nil_of_isName hName
  induction text using run_induction with
  | nil => cases hToken
  | gap c rest hGap ih =>
      rw [tokens_cons_of_not_isPart rest hGap] at hToken
      rcases List.mem_cons.mp hToken with hEq | hRest
      · have hOwn := hPart c (hEq ▸ List.mem_cons_self)
        rw [hGap] at hOwn
        cases hOwn
      · exact (ih hRest).append_left [c] hNe hPart
          (apart_of_singleton hGap rest)
  | run run rest hRunNe hRun hRest ih =>
      rw [tokens_run_append rest hRunNe hRun hRest]
        at hToken
      rcases List.mem_cons.mp hToken with rfl | hLater
      · refine ⟨[], rest, rfl,
          standsAlone_iff.mpr ⟨?_, hRest⟩⟩
        intro c hc
        cases hc
      · exact (ih hLater).append_left run hNe hPart
          (apart_of_head? run hRest)

/- The names that occur in a text are among its tokens. -/
theorem occurs_iff_mem_tokens
    {name text : Text}
    (hName : isName name = true) :
    Occurs name text ↔ name ∈ tokens text :=
  ⟨Occurs.mem_tokens hName, occurs_of_mem_tokens hName⟩

/- Texts that stand apart hold the names of both. -/
theorem occurs_append
    {name left right : Text}
    (hName : isName name = true)
    (hApart : Apart left right) :
    Occurs name (left ++ right) ↔
      Occurs name left ∨ Occurs name right := by
  rw [occurs_iff_mem_tokens hName,
    occurs_iff_mem_tokens hName,
    occurs_iff_mem_tokens hName, tokens_append hApart,
    List.mem_append]

/- The old name does not occur once it is replaced. -/
theorem not_occurs_rename
    {old new : Text}
    (hOld : isName old = true)
    (hNew : isName new = true)
    (hNe : old ≠ new)
    (text : Text) :
    ¬Occurs old (rename old new text).1 := by
  rw [occurs_iff_mem_tokens hOld]
  exact not_mem_tokens_rename hOld hNew hNe text

end Identifier

end NotifyScope
