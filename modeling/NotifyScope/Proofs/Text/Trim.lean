import Mathlib.Data.List.TakeWhile
import NotifyScope.Line

/-
  Trimming and the depth of braces under white space in
  front of a line and behind it: indenting a line, moving it
  back, or dropping a carriage return changes neither what
  remains of it once it is trimmed nor its brace balance.

  Main declarations:
    * `Text.run_induction`
    * `Text.trim_append_left`
    * `Text.exists_eq_append_trim`
    * `Line.braceBalance_trim`
-/

------------------------------------------------------------
-- Blank Text
------------------------------------------------------------

namespace NotifyScope

namespace Text

/- Blank texts put together are blank. -/
@[simp] theorem allBlank_append
    (left right : Text) :
    allBlank (left ++ right) =
      (allBlank left && allBlank right) := by
  simp [allBlank]

/- A text is blank if nothing remains of it in front. -/
theorem trimLeft_eq_nil_iff
    {text : Text} :
    trimLeft text = [] ↔ allBlank text = true := by
  simp [trimLeft, allBlank, List.dropWhile_eq_nil_iff]

/- The white space that a text starts with is blank. -/
theorem allBlank_leading
    (text : Text) :
    allBlank (leading text) = true := by
  unfold allBlank leading
  rw [List.all_eq_true]
  intro c hc
  exact List.mem_takeWhile_imp hc

/- A text that starts with none has no white space in front. -/
theorem leading_eq_nil
    {text : Text}
    (hHead : ∀ c ∈ text.head?, isBlank c = false) :
    leading text = [] := by
  cases text with
  | nil => rfl
  | cons c rest =>
      unfold leading
      exact List.takeWhile_cons_of_neg (by simp [hHead c rfl])

/- What remains behind it starts with no white space. -/
theorem leading_trimLeft
    (text : Text) :
    leading (trimLeft text) = [] := by
  apply leading_eq_nil
  intro c hc
  obtain ⟨rest, hRest⟩ := List.head?_eq_some_iff.mp hc
  exact isBlank_head_trimLeft hRest

/- White space in front of a text is in front of all of it. -/
theorem leading_append_left
    {blank : Text}
    (text : Text)
    (hBlank : allBlank blank = true) :
    leading (blank ++ text) = blank ++ leading text := by
  unfold leading
  exact List.takeWhile_append_of_pos fun c hc =>
    List.all_eq_true.mp hBlank c hc

/- White space in front is dropped. -/
theorem trimLeft_append_left
    {blank : Text}
    (text : Text)
    (hBlank : allBlank blank = true) :
    trimLeft (blank ++ text) = trimLeft text := by
  unfold trimLeft
  rw [List.dropWhile_append_of_pos]
  intro c hc
  exact List.all_eq_true.mp hBlank c hc

/- White space behind is dropped. -/
theorem trimRight_append_right
    {blank : Text}
    (text : Text)
    (hBlank : allBlank blank = true) :
    trimRight (text ++ blank) = trimRight text := by
  have hReverse :
      allBlank blank.reverse = true := by
    unfold allBlank at hBlank ⊢
    simpa only [List.all_reverse] using hBlank
  have hDrop := trimLeft_append_left text.reverse hReverse
  unfold trimLeft at hDrop
  unfold trimRight
  rw [List.reverse_append, hDrop]

------------------------------------------------------------
-- Induction over Runs
------------------------------------------------------------

/-
  With a class of characters, texts are made of single other
  characters and of runs of characters of the class, each as
  long as it can be.
-/
theorem run_induction
    (inClass : Char → Bool)
    {motive : Text → Prop}
    (nil : motive [])
    (other : ∀ c rest,
      inClass c = false → motive rest → motive (c :: rest))
    (run : ∀ run rest,
      run ≠ [] →
      (∀ c ∈ run, inClass c = true) →
      (∀ c ∈ rest.head?, inClass c = false) →
      motive rest →
      motive (run ++ rest))
    (text : Text) :
    motive text := by
  induction hLength : text.length using
    Nat.strong_induction_on generalizing text with
  | _ length ih =>
      subst hLength
      cases text with
      | nil => exact nil
      | cons c rest =>
          cases hClass : inClass c with
          | false =>
              apply other c rest hClass
              exact ih rest.length (by simp) rest rfl
          | true =>
              have hSplit :=
                List.takeWhile_append_dropWhile
                  (p := inClass) (l := c :: rest)
              have hNe :
                  (c :: rest).takeWhile inClass ≠ [] := by
                simp [hClass]
              have hLess :
                  ((c :: rest).dropWhile inClass).length <
                    (c :: rest).length := by
                have hPos := List.length_pos_iff.mpr hNe
                have hSum := congrArg List.length hSplit
                rw [List.length_append] at hSum
                omega
              rw [← hSplit]
              apply run _ _ hNe
              · intro d hd
                exact List.mem_takeWhile_imp hd
              · intro d hd
                have hHead :=
                  List.head?_dropWhile_not inClass (c :: rest)
                rw [Option.mem_def.mp hd] at hHead
                simpa using hHead
              · exact ih _ hLess _ rfl

------------------------------------------------------------
-- Trimmed Text
------------------------------------------------------------

/- White space in front does not show in a trimmed text. -/
theorem trim_append_left
    {blank : Text}
    (text : Text)
    (hBlank : allBlank blank = true) :
    trim (blank ++ text) = trim text := by
  unfold trim
  rw [trimLeft_append_left text hBlank]

/-
  A text is what remains of it once it is trimmed, between
  two stretches of white space.
-/
theorem exists_eq_append_trim
    (text : Text) :
    ∃ front back,
      allBlank front = true ∧ allBlank back = true ∧
        text = front ++ (trim text ++ back) := by
  have hBack :
      allBlank
        (leading (trimLeft text).reverse).reverse = true := by
    have hLeading :=
      allBlank_leading (trimLeft text).reverse
    unfold allBlank at hLeading ⊢
    simpa only [List.all_reverse] using hLeading
  refine
    ⟨leading text,
      (leading (trimLeft text).reverse).reverse,
      allBlank_leading text, hBack, ?_⟩
  have hTrim :
      trim text ++
          (leading (trimLeft text).reverse).reverse =
        trimLeft text := by
    unfold trim trimRight
    rw [← List.reverse_append]
    change
      (leading (trimLeft text).reverse ++
        trimLeft (trimLeft text).reverse).reverse = _
    rw [leading_append_trimLeft, List.reverse_reverse]
  rw [hTrim, leading_append_trimLeft]

/- Nothing remains of a blank text. -/
theorem trim_eq_nil_of_allBlank
    {text : Text}
    (hBlank : allBlank text = true) :
    trim text = [] := by
  unfold trim
  rw [trimLeft_eq_nil_iff.mpr hBlank]
  rfl

/- A text of which nothing remains is blank. -/
theorem trim_eq_nil_iff
    {text : Text} :
    trim text = [] ↔ allBlank text = true := by
  constructor
  · intro hTrim
    rcases exists_eq_append_trim text with
      ⟨front, back, hFront, hBack, hText⟩
    rw [hText, hTrim]
    simp [hFront, hBack]
  · exact trim_eq_nil_of_allBlank

/- White space behind does not show in a trimmed text. -/
theorem trim_append_right
    {blank : Text}
    (text : Text)
    (hBlank : allBlank blank = true) :
    trim (text ++ blank) = trim text := by
  cases hText : allBlank text with
  | true =>
      rw [trim_append_left blank hText,
        trim_eq_nil_of_allBlank hBlank,
        trim_eq_nil_of_allBlank hText]
  | false =>
      have hNe : trimLeft text ≠ [] := by
        intro hNil
        rw [trimLeft_eq_nil_iff.mp hNil] at hText
        exact absurd hText (by decide)
      have hLeft :
          trimLeft (text ++ blank) =
            trimLeft text ++ blank := by
        unfold trimLeft at hNe ⊢
        rw [List.dropWhile_append, if_neg (by simpa using hNe)]
      unfold trim
      rw [hLeft, trimRight_append_right _ hBlank]

/- What remains starts with no white space. -/
theorem isBlank_of_mem_head?_trim
    {text : Text}
    {c : Char}
    (hHead : c ∈ (trim text).head?) :
    isBlank c = false := by
  rcases trimRight_append (trimLeft text) with
    ⟨back, hBack⟩
  rcases List.head?_eq_some_iff.mp hHead with
    ⟨rest, hTrim⟩
  rw [← trim, hTrim] at hBack
  exact isBlank_head_trimLeft hBack.symm

/- What remains ends in no white space. -/
theorem isBlank_of_mem_getLast?_trim
    {text : Text}
    {c : Char}
    (hLast : c ∈ (trim text).getLast?) :
    isBlank c = false := by
  unfold trim trimRight at hLast
  rw [List.getLast?_reverse] at hLast
  rcases List.head?_eq_some_iff.mp hLast with
    ⟨rest, hDrop⟩
  exact isBlank_head_trimLeft hDrop

/- Nothing is trimmed where no white space is at the ends. -/
theorem trim_eq_self
    {text : Text}
    (hHead : ∀ c ∈ text.head?, isBlank c = false)
    (hLast : ∀ c ∈ text.getLast?, isBlank c = false) :
    trim text = text := by
  have hLeft : trimLeft text = text := by
    cases text with
    | nil => rfl
    | cons c rest => exact trimLeft_cons (hHead c (by simp))
  have hRight : trimLeft text.reverse = text.reverse := by
    cases hReverse : text.reverse with
    | nil => rfl
    | cons c rest =>
        apply trimLeft_cons
        apply hLast c
        rw [List.getLast?_eq_head?_reverse, hReverse]
        simp
  unfold trim trimRight
  rw [hLeft]
  unfold trimLeft at hRight
  rw [hRight, List.reverse_reverse]

/- Lines that are the same once trimmed are blank together. -/
theorem allBlank_eq_of_trim_eq
    {left right : Text}
    (hTrim : trim left = trim right) :
    allBlank left = allBlank right := by
  rw [Bool.eq_iff_iff, ← trim_eq_nil_iff,
    ← trim_eq_nil_iff, hTrim]

end Text

------------------------------------------------------------
-- Brace Balance
------------------------------------------------------------

namespace Line

@[simp] theorem braceBalance_nil :
    braceBalance [] = 0 := rfl

@[simp] theorem braceBalance_cons
    (c : Char)
    (line : Line) :
    braceBalance (c :: line) =
      braceWeight c + braceBalance line := rfl

@[simp] theorem braceBalance_append
    (left right : Line) :
    braceBalance (left ++ right) =
      braceBalance left + braceBalance right := by
  induction left with
  | nil => simp
  | cons c left ih =>
      rw [List.cons_append, braceBalance_cons,
        braceBalance_cons, ih]
      omega

/- A character without weight is not a brace. -/
theorem braceBalance_eq_zero_of_forall
    {line : Line}
    (hWeight : ∀ c ∈ line, braceWeight c = 0) :
    braceBalance line = 0 := by
  induction line with
  | nil => rfl
  | cons c line ih =>
      rw [braceBalance_cons,
        hWeight c List.mem_cons_self,
        ih (fun d hd =>
          hWeight d (List.mem_cons_of_mem c hd))]
      rfl

/- White space holds no braces. -/
theorem braceWeight_of_isBlank
    {c : Char}
    (hBlank : Text.isBlank c = true) :
    braceWeight c = 0 := by
  have hOpen : c ≠ '\x7b' := by
    intro hc
    subst hc
    exact absurd hBlank (by decide)
  have hClose : c ≠ '\x7d' := by
    intro hc
    subst hc
    exact absurd hBlank (by decide)
  unfold braceWeight
  rw [if_neg hOpen, if_neg hClose]

theorem braceBalance_of_allBlank
    {line : Line}
    (hBlank : Text.allBlank line = true) :
    braceBalance line = 0 := by
  apply braceBalance_eq_zero_of_forall
  intro c hc
  exact braceWeight_of_isBlank
    (List.all_eq_true.mp hBlank c hc)

/- Trimming keeps the brace balance of a line. -/
theorem braceBalance_trim
    (line : Line) :
    braceBalance (Text.trim line) = braceBalance line := by
  rcases Text.exists_eq_append_trim line with
    ⟨front, back, hFront, hBack, hLine⟩
  have hSplit := congrArg braceBalance hLine
  rw [braceBalance_append, braceBalance_append,
    braceBalance_of_allBlank hFront,
    braceBalance_of_allBlank hBack] at hSplit
  omega

theorem braceBalance_eq_of_trim_eq
    {left right : Line}
    (hTrim : Text.trim left = Text.trim right) :
    braceBalance left = braceBalance right := by
  rw [← braceBalance_trim left, hTrim,
    braceBalance_trim right]

/- A line with braces that do not cancel out is not blank. -/
theorem not_allBlank_of_braceBalance_ne
    {line : Line}
    (hBalance : braceBalance line ≠ 0) :
    Text.allBlank line = false := by
  cases hBlank : Text.allBlank line with
  | false => rfl
  | true =>
      exact absurd (braceBalance_of_allBlank hBlank)
        hBalance

end Line

end NotifyScope
