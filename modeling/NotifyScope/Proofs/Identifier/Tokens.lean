import Mathlib.Data.List.SplitBy
import NotifyScope.Identifier
import NotifyScope.Proofs.Text.Trim

/-
  The tokens of a text: its longest runs of identifier
  characters, and the single characters between them.  Two
  texts put together have the tokens of both unless a run
  goes on across the border, and everything about tokens
  follows from that.

  Key definitions include:
    * `Identifier.Apart`
    * `Identifier.tokens`

  Main declarations:
    * `Identifier.tokens_append`
    * `Identifier.tokens_of_isName`
    * `Identifier.run_induction`
-/

------------------------------------------------------------
-- Identifier Characters
------------------------------------------------------------

namespace NotifyScope

namespace Identifier

/- No white space is a part of an identifier. -/
theorem isPart_of_isBlank
    {c : Char}
    (hBlank : Text.isBlank c = true) :
    isPart c = false := by
  have hCode :
      c.toNat ∈
        [9, 10, 11, 12, 13, 0x20, 0x85, 0xA0, 0x1680,
          0x2000, 0x2001, 0x2002, 0x2003, 0x2004, 0x2005,
          0x2006, 0x2007, 0x2008, 0x2009, 0x200A, 0x2028,
          0x2029, 0x202F, 0x205F, 0x3000] := by
    simp only [Text.isBlank, Bool.or_eq_true,
      Bool.and_eq_true, decide_eq_true_eq,
      beq_iff_eq] at hBlank
    simp only [List.mem_cons, List.not_mem_nil, or_false]
    omega
  have hCodes :
      ∀ n ∈
        [9, 10, 11, 12, 13, 0x20, 0x85, 0xA0, 0x1680,
          0x2000, 0x2001, 0x2002, 0x2003, 0x2004, 0x2005,
          0x2006, 0x2007, 0x2008, 0x2009, 0x200A, 0x2028,
          0x2029, 0x202F, 0x205F, 0x3000],
        isPart (Char.ofNat n) = false := by
    decide +kernel
  rw [← Char.ofNat_toNat c]
  exact hCodes c.toNat hCode

/- No part of an identifier is white space. -/
theorem not_isBlank_of_isPart
    {c : Char}
    (hPart : isPart c = true) :
    Text.isBlank c = false := by
  cases hBlank : Text.isBlank c with
  | false => rfl
  | true =>
      rw [isPart_of_isBlank hBlank] at hPart
      exact absurd hPart (by decide)

/- No brace is a part of an identifier. -/
theorem braceWeight_of_isPart
    {c : Char}
    (hPart : isPart c = true) :
    Line.braceWeight c = 0 := by
  have hOpen : c ≠ '\x7b' := by
    intro hc
    subst hc
    exact absurd hPart (by decide)
  have hClose : c ≠ '\x7d' := by
    intro hc
    subst hc
    exact absurd hPart (by decide)
  unfold Line.braceWeight
  rw [if_neg hOpen, if_neg hClose]

/- A name is not empty. -/
theorem ne_nil_of_isName
    {name : Text}
    (hName : isName name = true) :
    name ≠ [] := by
  intro hNil
  subst hNil
  exact absurd hName (by decide)

/- A name holds identifier characters only. -/
theorem isPart_of_mem_isName
    {name : Text}
    (hName : isName name = true) :
    ∀ c ∈ name, isPart c = true := by
  unfold isName at hName
  rw [Bool.and_eq_true] at hName
  exact List.all_eq_true.mp hName.2

------------------------------------------------------------
-- Tokens
------------------------------------------------------------

/-
  Whether no identifier goes on from the end of one text to
  the start of the next.
-/
def Apart
    (left right : Text) : Prop :=
  ∀ c ∈ left.getLast?, ∀ d ∈ right.head?,
    (isPart c && isPart d) = false

/-
  The longest runs of identifier characters, and each of the
  characters between them on its own.
-/
def tokens
    (text : Text) : List Text :=
  text.splitBy fun c d => isPart c && isPart d

@[simp] theorem tokens_nil : tokens [] = [] := rfl

/- The tokens of a text make up the text. -/
@[simp] theorem flatten_tokens
    (text : Text) :
    (tokens text).flatten = text :=
  List.flatten_splitBy _ text

/- Texts that stand apart have the tokens of both. -/
theorem tokens_append
    {left right : Text}
    (hApart : Apart left right) :
    tokens (left ++ right) = tokens left ++ tokens right :=
  List.splitBy_append hApart

/- A text starts apart behind no identifier character. -/
theorem apart_of_getLast?
    {left : Text}
    (right : Text)
    (hLeft : ∀ c ∈ left.getLast?, isPart c = false) :
    Apart left right := by
  intro c hc d _
  rw [hLeft c hc]
  rfl

/- A text starts apart behind another character. -/
theorem apart_of_singleton
    {c : Char}
    (hPart : isPart c = false)
    (right : Text) :
    Apart [c] right := by
  apply apart_of_getLast?
  intro d hd
  rw [List.getLast?_singleton, Option.mem_some] at hd
  rw [← hd]
  exact hPart

/- A text ends apart in front of no identifier character. -/
theorem apart_of_head?
    (left : Text)
    {right : Text}
    (hRight : ∀ d ∈ right.head?, isPart d = false) :
    Apart left right := by
  intro c _ d hd
  rw [hRight d hd, Bool.and_false]

/- Nothing goes on across white space in front of a text. -/
theorem apart_of_allBlank_left
    {left : Text}
    (right : Text)
    (hBlank : Text.allBlank left = true) :
    Apart left right := by
  apply apart_of_getLast?
  intro c hc
  exact isPart_of_isBlank
    (List.all_eq_true.mp hBlank c
      (List.mem_of_mem_getLast? hc))

/- Nothing goes on across white space behind a text. -/
theorem apart_of_allBlank_right
    (left : Text)
    {right : Text}
    (hBlank : Text.allBlank right = true) :
    Apart left right := by
  apply apart_of_head?
  intro c hc
  exact isPart_of_isBlank
    (List.all_eq_true.mp hBlank c
      (List.mem_of_mem_head? hc))

/- A character on its own is a token. -/
theorem tokens_singleton
    (c : Char) :
    tokens [c] = [[c]] :=
  List.splitBy_of_isChain (List.cons_ne_nil c [])
    (List.isChain_singleton c)

/- A character that is no part of an identifier. -/
theorem tokens_cons_of_not_isPart
    {c : Char}
    (rest : Text)
    (hPart : isPart c = false) :
    tokens (c :: rest) = [c] :: tokens rest := by
  have hTokens :=
    tokens_append (apart_of_singleton hPart rest)
  rw [tokens_singleton] at hTokens
  exact hTokens

/- A run of identifier characters is one token. -/
theorem tokens_of_forall_isPart
    {run : Text}
    (hNe : run ≠ [])
    (hPart : ∀ c ∈ run, isPart c = true) :
    tokens run = [run] := by
  apply List.splitBy_of_isChain hNe
  apply List.Pairwise.isChain
  apply List.pairwise_of_forall_mem_list
  intro c hc d hd
  rw [hPart c hc, hPart d hd]
  rfl

theorem tokens_of_isName
    {name : Text}
    (hName : isName name = true) :
    tokens name = [name] :=
  tokens_of_forall_isPart (ne_nil_of_isName hName)
    (isPart_of_mem_isName hName)

/- No name is found where there are no identifiers. -/
theorem not_mem_tokens_of_forall
    {name text : Text}
    (hName : isName name = true)
    (hText : ∀ c ∈ text, isPart c = false) :
    name ∉ tokens text := by
  intro hMem
  cases hCase : name with
  | nil => exact ne_nil_of_isName hName hCase
  | cons c rest =>
      have hIn : c ∈ name := by
        rw [hCase]
        exact List.mem_cons_self
      have hPart := isPart_of_mem_isName hName c hIn
      rw [hText c (by
        rw [← flatten_tokens text]
        exact List.mem_flatten_of_mem hMem hIn)] at hPart
      cases hPart

------------------------------------------------------------
-- Induction over Runs
------------------------------------------------------------

/-
  Texts are made of single characters that are no part of an
  identifier, and of runs of those that are, each as long as
  it can be.
-/
theorem run_induction
    {motive : Text → Prop}
    (nil : motive [])
    (gap : ∀ c rest,
      isPart c = false → motive rest → motive (c :: rest))
    (run : ∀ run rest,
      run ≠ [] →
      (∀ c ∈ run, isPart c = true) →
      (∀ c ∈ rest.head?, isPart c = false) →
      motive rest →
      motive (run ++ rest))
    (text : Text) :
    motive text :=
  Text.run_induction isPart nil gap run text

end Identifier

end NotifyScope
