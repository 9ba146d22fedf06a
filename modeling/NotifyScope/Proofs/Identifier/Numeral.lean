import NotifyScope.Proofs.Identifier.Occurrence

/-
  The numbers that a message mentions.  A number is mentioned
  where its decimal digits stand as a word of their own; so a
  message that is put together from words and numbers, with
  no digit in the words, mentions these numbers only.

  Key definitions include:
    * `Text.numeral`
    * `Text.Mentions`
    * `Text.isWords`

  Main declarations:
    * `Text.mentions_numeral_iff`
    * `Text.mentions_words_append_iff`
    * `Text.mentions_numeral_append_iff`
-/

------------------------------------------------------------
-- Numerals
------------------------------------------------------------

namespace NotifyScope

namespace Text

open Identifier

/- The decimal digits of a number. -/
def numeral
    (n : Nat) : Text :=
  (toString n).toList

theorem numeral_eq
    (n : Nat) :
    numeral n = Nat.toDigits 10 n := by
  unfold numeral
  rw [Nat.toString_eq_repr, Nat.toList_repr]

/- Different numbers have different digits. -/
theorem numeral_inj
    {m n : Nat} :
    numeral m = numeral n ↔ m = n := by
  constructor
  · intro hEq
    rw [numeral_eq, numeral_eq] at hEq
    calc
      m = Nat.ofDigitChars 10 (Nat.toDigits 10 m) 0 :=
        Nat.ofDigitChars_ten_toDigits.symm
      _ = Nat.ofDigitChars 10 (Nat.toDigits 10 n) 0 := by
        rw [hEq]
      _ = n := Nat.ofDigitChars_ten_toDigits
  · intro hEq
    rw [hEq]

/- There are digits in a numeral, and nothing else. -/
theorem isDigit_of_mem_numeral
    {n : Nat}
    {c : Char}
    (hMem : c ∈ numeral n) :
    c.isDigit = true := by
  rw [numeral_eq] at hMem
  exact Nat.isDigit_of_mem_toDigits (by decide) (by decide)
    hMem

/- A digit can be a part of an identifier. -/
theorem isPart_of_isDigit
    {c : Char}
    (hDigit : c.isDigit = true) :
    isPart c = true := by
  have hAscii : c.toNat < 128 := by
    unfold Char.isDigit at hDigit
    rw [Bool.and_eq_true, decide_eq_true_eq,
      decide_eq_true_eq] at hDigit
    have hUpper : c.val.toNat ≤ 57 := hDigit.2
    exact Nat.lt_of_le_of_lt hUpper (by decide)
  unfold isPart isAlphanumeric
  rw [if_pos hAscii]
  unfold Char.isAlphanum
  rw [hDigit, Bool.or_true, Bool.true_or, Bool.true_or]

/- So a numeral is a run of identifier characters. -/
theorem isName_numeral
    (n : Nat) :
    isName (numeral n) = true := by
  unfold isName
  rw [Bool.and_eq_true, Bool.not_eq_true',
    List.isEmpty_eq_false_iff, List.all_eq_true]
  constructor
  · rw [numeral_eq]
    exact Nat.toDigits_ne_nil
  · intro c hMem
    exact isPart_of_isDigit (isDigit_of_mem_numeral hMem)

------------------------------------------------------------
-- Mentioned Numbers
------------------------------------------------------------

/- Whether a number stands in a text as a word of its own. -/
def Mentions
    (text : Text)
    (n : Nat) : Prop :=
  Occurs (numeral n) text

/- A numeral mentions its number. -/
theorem mentions_numeral_iff
    {m n : Nat} :
    Mentions (numeral m) n ↔ n = m := by
  unfold Mentions
  rw [occurs_iff_mem_tokens (isName_numeral n),
    tokens_of_isName (isName_numeral m), List.mem_singleton,
    numeral_inj]

/- A text without a digit mentions no number. -/
theorem not_mentions_of_no_digit
    {text : Text}
    (hNone : text.any Char.isDigit = false)
    (n : Nat) :
    ¬Mentions text n := by
  rintro ⟨front, back, rfl, _⟩
  obtain ⟨c, hMem⟩ :=
    List.exists_mem_of_ne_nil _
      (ne_nil_of_isName (isName_numeral n))
  rw [List.any_eq_false] at hNone
  exact hNone c (by simp [hMem]) (isDigit_of_mem_numeral hMem)

/- Texts that stand apart mention the numbers of both. -/
theorem mentions_append_iff
    {left right : Text}
    (hApart : Apart left right)
    (n : Nat) :
    Mentions (left ++ right) n ↔
      Mentions left n ∨ Mentions right n :=
  occurs_append (isName_numeral n) hApart

/-
  Words that can stand before a number: they hold no digit,
  and end apart from what follows.
-/
def isWords
    (words : Text) : Bool :=
  !words.any Char.isDigit && !words.getLast?.any isPart

/- Such words mention nothing by themselves. -/
theorem mentions_words_append_iff
    {words : Text}
    (hWords : isWords words = true)
    (rest : Text)
    (n : Nat) :
    Mentions (words ++ rest) n ↔ Mentions rest n := by
  unfold isWords at hWords
  rw [Bool.and_eq_true, Bool.not_eq_true',
    Bool.not_eq_true', Option.any_eq_false] at hWords
  rcases hWords with ⟨hNone, hLast⟩
  have hApart : Apart words rest :=
    apart_of_getLast? rest hLast
  rw [mentions_append_iff hApart,
    or_iff_right (not_mentions_of_no_digit hNone n)]

/- A number in front of words is mentioned before them. -/
theorem mentions_numeral_append_iff
    {rest : Text}
    (hRest : rest.head?.any isPart = false)
    (m n : Nat) :
    Mentions (numeral m ++ rest) n ↔
      n = m ∨ Mentions rest n := by
  rw [Option.any_eq_false] at hRest
  have hApart : Apart (numeral m) rest :=
    apart_of_head? _ hRest
  rw [mentions_append_iff hApart, mentions_numeral_iff]

end Text

end NotifyScope
