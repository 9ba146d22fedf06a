import Mathlib.Data.List.DropRight
import NotifyScope.Proofs.Identifier.Renaming

/-
  The words of a text: the names that stand in it, in their
  order and with every repetition, whatever is between them.
  Two texts with the same words need not be interchangeable
  inside a longer one, since a name can go on across a border;
  those that are can be put together and are so again.

  Key definitions include:
    * `Identifier.words`
    * `Identifier.SameWords`

  Main declarations:
    * `Identifier.words_rename`
    * `Identifier.SameWords.append`
    * `Identifier.apart_of_words_eq`
-/

------------------------------------------------------------
-- Words
------------------------------------------------------------

namespace NotifyScope

namespace Identifier

/- The tokens of a text that are names. -/
def words
    (text : Text) : List Text :=
  (tokens text).filter isName

theorem mem_words
    {name text : Text} :
    name ∈ words text ↔
      name ∈ tokens text ∧ isName name = true :=
  List.mem_filter

/- Texts that stand apart have the words of both. -/
theorem words_append
    {left right : Text}
    (hApart : Apart left right) :
    words (left ++ right) = words left ++ words right := by
  unfold words
  rw [tokens_append hApart, List.filter_append]

/- A longest run of identifier characters is a word. -/
theorem words_run_append
    {run : Text}
    (rest : Text)
    (hNe : run ≠ [])
    (hRun : ∀ c ∈ run, isPart c = true)
    (hRest : ∀ c ∈ rest.head?, isPart c = false) :
    words (run ++ rest) = run :: words rest := by
  have hName : isName run = true := by
    unfold isName
    rw [Bool.and_eq_true, List.all_eq_true]
    exact ⟨by simpa using hNe, hRun⟩
  unfold words
  rw [tokens_run_append rest hNe hRun hRest,
    List.filter_cons_of_pos hName]

/- Where there are no identifiers there are no words. -/
theorem words_of_forall
    {text : Text}
    (hText : ∀ c ∈ text, isPart c = false) :
    words text = [] := by
  unfold words
  rw [List.filter_eq_nil_iff]
  intro name hMem hName
  exact not_mem_tokens_of_forall hName hText hMem

/- What is no identifier separates the words around it. -/
theorem words_gap
    {gap : Text}
    (left right : Text)
    (hNe : gap ≠ [])
    (hGap : ∀ c ∈ gap, isPart c = false) :
    words (left ++ (gap ++ right)) =
      words left ++ words right := by
  have hFront : Apart left (gap ++ right) := by
    apply apart_of_head?
    intro c hc
    rw [List.head?_append_of_ne_nil _ hNe] at hc
    exact hGap c (List.mem_of_mem_head? hc)
  have hBack : Apart gap right := by
    apply apart_of_getLast?
    intro c hc
    exact hGap c (List.mem_of_mem_getLast? hc)
  rw [words_append hFront, words_append hBack,
    words_of_forall hGap, List.nil_append]

/- What is no identifier adds no words behind a text. -/
theorem words_append_gap
    {gap : Text}
    (left : Text)
    (hGap : ∀ c ∈ gap, isPart c = false) :
    words (left ++ gap) = words left := by
  rw [words_append (apart_of_head? left fun c hc =>
    hGap c (List.mem_of_mem_head? hc)),
    words_of_forall hGap, List.append_nil]

/- What is no identifier adds no words before a text. -/
theorem words_gap_append
    {gap : Text}
    (right : Text)
    (hGap : ∀ c ∈ gap, isPart c = false) :
    words (gap ++ right) = words right := by
  rw [words_append (apart_of_getLast? right fun c hc =>
    hGap c (List.mem_of_mem_getLast? hc)),
    words_of_forall hGap, List.nil_append]

/- A renaming renames the words. -/
theorem words_rename
    {old new : Text}
    (hOld : isName old = true)
    (hNew : isName new = true)
    (text : Text) :
    words (rename old new text).1 =
      (words text).map (replaceToken old new) := by
  have hSame : isName ∘ replaceToken old new = isName := by
    funext token
    by_cases hToken : token = old
    · simp [replaceToken, hToken, hOld, hNew]
    · simp [replaceToken, hToken]
  unfold words
  rw [tokens_rename hOld hNew, List.filter_map, hSame]

------------------------------------------------------------
-- Interchangeable Texts
------------------------------------------------------------

/- Texts that make no difference to the words around them. -/
def SameWords
    (text other : Text) : Prop :=
  ∀ left right,
    words (left ++ (text ++ right)) =
      words (left ++ (other ++ right))

theorem SameWords.refl
    (text : Text) :
    SameWords text text :=
  fun _ _ => rfl

theorem SameWords.trans
    {first second third : Text}
    (hFirst : SameWords first second)
    (hSecond : SameWords second third) :
    SameWords first third :=
  fun left right =>
    (hFirst left right).trans (hSecond left right)

/- Interchangeable texts are put together as such. -/
theorem SameWords.append
    {first second front back : Text}
    (hFirst : SameWords first front)
    (hSecond : SameWords second back) :
    SameWords (first ++ second) (front ++ back) := by
  intro left right
  calc words (left ++ (first ++ second ++ right))
      = words (left ++ (first ++ (second ++ right))) := by
        rw [List.append_assoc]
    _ = words (left ++ (front ++ (second ++ right))) :=
        hFirst left (second ++ right)
    _ = words (left ++ front ++ (second ++ right)) := by
        rw [List.append_assoc]
    _ = words (left ++ front ++ (back ++ right)) :=
        hSecond (left ++ front) right
    _ = words (left ++ (front ++ back ++ right)) := by
        simp only [List.append_assoc]

/- Two gaps make no difference, however long each is. -/
theorem SameWords.of_gaps
    {gap other : Text}
    (hGapNe : gap ≠ [])
    (hGap : ∀ c ∈ gap, isPart c = false)
    (hOtherNe : other ≠ [])
    (hOther : ∀ c ∈ other, isPart c = false) :
    SameWords gap other := by
  intro left right
  rw [words_gap left right hGapNe hGap,
    words_gap left right hOtherNe hOther]

------------------------------------------------------------
-- A Name Between Two Texts
------------------------------------------------------------

/- A text up to the identifier that it may end in. -/
theorem exists_run_right
    (text : Text) :
    ∃ front run, text = front ++ run ∧
      (∀ c ∈ front.getLast?, isPart c = false) ∧
      ∀ c ∈ run, isPart c = true := by
  refine ⟨text.rdropWhile isPart, text.rtakeWhile isPart,
    List.rdropWhile_append_rtakeWhile.symm,
    ?_, fun c hc => List.mem_rtakeWhile_imp hc⟩
  intro c hc
  rcases List.mem_getLast?_eq_getLast hc with ⟨hNe, rfl⟩
  simpa using List.rdropWhile_last_not isPart text hNe

/- A text from the identifier that it may start with. -/
theorem exists_run_left
    (text : Text) :
    ∃ run back, text = run ++ back ∧
      (∀ c ∈ run, isPart c = true) ∧
      ∀ c ∈ back.head?, isPart c = false := by
  refine ⟨text.takeWhile isPart, text.dropWhile isPart,
    List.takeWhile_append_dropWhile.symm,
    fun c hc => List.mem_takeWhile_imp hc, ?_⟩
  intro c hc
  have hHead := List.head?_dropWhile_not isPart text
  rw [Option.mem_def.mp hc] at hHead
  simpa using hHead

/-
  A name becomes another one between two texts only if it
  touches no identifier there and stands nowhere in them.
  Else the two names would be continued to the same word, or
  one more word would be renamed.
-/
theorem apart_of_words_eq
    {old new before after : Text}
    (hOld : isName old = true)
    (hNew : isName new = true)
    (hNe : old ≠ new)
    (hWords :
      (words (before ++ (old ++ after))).map
          (replaceToken old new) =
        words (before ++ (new ++ after))) :
    (∀ c ∈ before.getLast?, isPart c = false) ∧
      (∀ c ∈ after.head?, isPart c = false) ∧
      old ∉ tokens before ∧ old ∉ tokens after := by
  rcases exists_run_right before with
    ⟨front, left, rfl, hFront, hLeft⟩
  rcases exists_run_left after with
    ⟨right, back, rfl, hRight, hBack⟩
  have hCut : ∀ {name : Text}, isName name = true →
      words (front ++ left ++ (name ++ (right ++ back))) =
        words front ++
          (left ++ (name ++ right)) :: words back := by
    intro name hName
    have hRun :
        ∀ c ∈ left ++ (name ++ right), isPart c = true := by
      simp only [List.mem_append]
      rintro c (hc | hc | hc)
      · exact hLeft c hc
      · exact isPart_of_mem_isName hName c hc
      · exact hRight c hc
    rw [← words_run_append back
        (by simp [ne_nil_of_isName hName]) hRun hBack,
      ← words_append (apart_of_getLast? _ hFront)]
    simp only [List.append_assoc]
  rw [hCut hOld, hCut hNew, List.map_append,
    List.map_cons] at hWords
  rcases List.append_inj hWords (List.length_map _) with
    ⟨hMapFront, hRest⟩
  rw [List.cons.injEq] at hRest
  have hNone : ∀ {text : Text},
      (words text).map (replaceToken old new) =
        words text →
      old ∉ tokens text := by
    intro text hMap hMem
    have hSelf :=
      List.map_eq_map_iff.mp
        (hMap.trans (List.map_id _).symm) old
        (mem_words.mpr ⟨hMem, hOld⟩)
    rw [replaceToken, if_pos rfl] at hSelf
    exact hNe hSelf.symm
  have hWhole : left ++ (old ++ right) = old := by
    by_contra hOther
    rw [replaceToken, if_neg hOther] at hRest
    exact hNe (List.append_cancel_right
      (List.append_cancel_left hRest.1))
  have hLength := congrArg List.length hWhole
  simp only [List.length_append] at hLength
  have hLeftNil : left = [] := by
    rw [← List.length_eq_zero_iff]
    omega
  have hRightNil : right = [] := by
    rw [← List.length_eq_zero_iff]
    omega
  rw [hLeftNil, hRightNil, List.append_nil,
    List.nil_append]
  exact ⟨hFront, hBack, hNone hMapFront, hNone hRest.2⟩

end Identifier

end NotifyScope
