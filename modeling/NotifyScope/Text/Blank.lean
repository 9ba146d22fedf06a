/-
  This file defines text as a list of characters, the white
  space of Unicode, and the trimming of text.

  Key definitions include:
    * `Text`
    * `Text.isBlank`
    * `Text.trim`
    * `Text.leading`
    * `Text.allBlank`
-/

namespace NotifyScope

------------------------------------------------------------
-- Text
------------------------------------------------------------

/-
  Text is a list of characters, so that it can be taken apart
  by recursion.
-/
abbrev Text :=
  List Char

namespace Text

------------------------------------------------------------
-- White Space
------------------------------------------------------------

/-
  The characters with the Unicode property White_Space.
-/
def isBlank
    (c : Char) : Bool :=
  let n := c.toNat
  (9 ≤ n && n ≤ 13) || n == 0x20 || n == 0x85 ||
    n == 0xA0 || n == 0x1680 ||
    (0x2000 ≤ n && n ≤ 0x200A) || n == 0x2028 ||
    n == 0x2029 || n == 0x202F || n == 0x205F ||
    n == 0x3000

/- A text is blank if it holds nothing but white space. -/
def allBlank
    (text : Text) : Bool :=
  text.all isBlank

/- The white space that a text starts with. -/
def leading
    (text : Text) : Text :=
  text.takeWhile isBlank

------------------------------------------------------------
-- Trimming
------------------------------------------------------------

/- Drop the white space at the start. -/
def trimLeft
    (text : Text) : Text :=
  text.dropWhile isBlank

/- Drop the white space at the end. -/
def trimRight
    (text : Text) : Text :=
  (text.reverse.dropWhile isBlank).reverse

/- Drop the white space at both ends. -/
def trim
    (text : Text) : Text :=
  trimRight (trimLeft text)

/- The characters of a text as a string. -/
def str
    (text : Text) : String :=
  String.ofList text

------------------------------------------------------------
-- Laws of Trimming
------------------------------------------------------------

/- A text is its leading white space and what remains. -/
theorem leading_append_trimLeft
    (text : Text) :
    leading text ++ trimLeft text = text :=
  List.takeWhile_append_dropWhile

/- A text starts with no white space once it is dropped. -/
theorem isBlank_head_trimLeft
    {text rest : Text}
    {c : Char}
    (h : trimLeft text = c :: rest) :
    isBlank c = false := by
  induction text with
  | nil => simp [trimLeft] at h
  | cons d tail ih =>
      cases hd : isBlank d with
      | true =>
          apply ih
          simpa [trimLeft, hd] using h
      | false =>
          simp only [trimLeft, List.dropWhile_cons, hd,
            Bool.false_eq_true, if_false,
            List.cons.injEq] at h
          rw [← h.1]
          exact hd

/- Nothing is dropped where no white space is in front. -/
theorem trimLeft_cons
    {rest : Text}
    {c : Char}
    (h : isBlank c = false) :
    trimLeft (c :: rest) = c :: rest := by
  simp [trimLeft, h]

/- Dropping the white space in front twice is dropping it. -/
theorem trimLeft_trimLeft
    (text : Text) :
    trimLeft (trimLeft text) = trimLeft text := by
  cases h : trimLeft text with
  | nil => rfl
  | cons c rest =>
      exact trimLeft_cons (isBlank_head_trimLeft h)

/- Dropping the white space behind twice is dropping it. -/
theorem trimRight_trimRight
    (text : Text) :
    trimRight (trimRight text) = trimRight text := by
  have h := trimLeft_trimLeft text.reverse
  simp only [trimLeft] at h
  simp [trimRight, h]

/- The white space behind ends the text it is dropped from. -/
theorem trimRight_append
    (text : Text) :
    ∃ tail, trimRight text ++ tail = text := by
  refine ⟨(leading text.reverse).reverse, ?_⟩
  rw [trimRight, ← List.reverse_append]
  have h := leading_append_trimLeft text.reverse
  rw [trimLeft] at h
  rw [h, List.reverse_reverse]

/- Trimming twice is trimming once. -/
theorem trim_trim
    (text : Text) :
    trim (trim text) = trim text := by
  have hLeft :
      trimLeft (trim text) = trim text := by
    cases hTrim : trim text with
    | nil => rfl
    | cons c rest =>
        obtain ⟨tail, hTail⟩ :=
          trimRight_append (trimLeft text)
        rw [← trim, hTrim] at hTail
        exact trimLeft_cons
          (isBlank_head_trimLeft hTail.symm)
  rw [trim, hLeft]
  exact trimRight_trimRight _

end Text

end NotifyScope
