import Mathlib.Tactic.SplitIfs
import NotifyScope.Report.Json

/-
  What a text in JSON stands for.  The grammar is the one of
  RFC 8259, with the value that a text denotes beside it.  It
  has no lists, negative numbers and fractions, as there are
  none in reports.  Every value is written as a text that
  denotes it.

  Key definitions include:
    * `JsonValue.Spells`
    * `JsonValue.IsNumeral`
    * `JsonValue.Denotes`

  Main declarations:
    * `JsonValue.quoted_quote`
    * `JsonValue.isNumeral_toString`
    * `JsonValue.denotes_render`
-/

namespace NotifyScope

namespace JsonValue

------------------------------------------------------------
-- Grammar
------------------------------------------------------------

/- A text that only separates others. -/
def IsBlank
    (text : Text) : Prop :=
  ∀ c ∈ text, c ∈ [' ', '\n', '\r', '\t']

/- The number that a hexadecimal digit stands for. -/
def hexValue?
    (c : Char) : Option Nat :=
  ("0123456789abcdef".toList).findIdx? (· == c)

/- How a character can be written between quotes. -/
inductive Spells : Char → Text → Prop where
  | plain
      {c : Char}
      (hControl : 0x20 ≤ c.toNat)
      (hQuote : c ≠ '"')
      (hBackslash : c ≠ '\\') :
      Spells c [c]
  | quote : Spells '"' ['\\', '"']
  | backslash : Spells '\\' ['\\', '\\']
  | newLine : Spells '\n' ['\\', 'n']
  | return : Spells '\r' ['\\', 'r']
  | tab : Spells '\t' ['\\', 't']
  | backspace : Spells (Char.ofNat 8) ['\\', 'b']
  | formFeed : Spells (Char.ofNat 12) ['\\', 'f']
  | code
      {c first second third fourth : Char}
      {a b d e : Nat}
      (hFirst : hexValue? first = some a)
      (hSecond : hexValue? second = some b)
      (hThird : hexValue? third = some d)
      (hFourth : hexValue? fourth = some e)
      (hCode : c.toNat = 16 * (16 * (16 * a + b) + d) + e) :
      Spells c ['\\', 'u', first, second, third, fourth]

/- How a text can be written between quotes. -/
inductive SpellsAll : Text → Text → Prop where
  | nil : SpellsAll [] []
  | cons
      {c : Char}
      {rest written others : Text}
      (hFirst : Spells c written)
      (hRest : SpellsAll rest others) :
      SpellsAll (c :: rest) (written ++ others)

/- How a text can be written with its quotes. -/
def Quoted
    (text written : Text) : Prop :=
  ∃ inside,
    SpellsAll text inside ∧ written = '"' :: inside ++ ['"']

/- How a number can be written, without superfluous zeros. -/
structure IsNumeral
    (n : Nat)
    (digits : Text) : Prop where
  isDigit : ∀ c ∈ digits, c.isDigit = true
  value : Nat.ofDigitChars 10 digits 0 = n
  ne_nil : digits ≠ []
  leading : digits.head? = some '0' → digits = ['0']

mutual

/- The texts that stand for a value. -/
inductive Denotes : JsonValue → Text → Prop where
  | null : Denotes null "null".toList
  | true : Denotes (bool true) "true".toList
  | false : Denotes (bool false) "false".toList
  | number
      {n : Nat}
      {digits : Text}
      (hNumeral : IsNumeral n digits) :
      Denotes (number n) digits
  | string
      {text written : Text}
      (hQuoted : Quoted text written) :
      Denotes (string text) written
  | object
      {fields : List (String × JsonValue)}
      {inside : Text}
      (hInside : Inside fields inside) :
      Denotes (object fields) ('\x7b' :: inside ++ ['\x7d'])

/- The texts that stand for the fields within an object. -/
inductive Inside :
    List (String × JsonValue) → Text → Prop where
  | none
      {blank : Text}
      (hBlank : IsBlank blank) :
      Inside [] blank
  | last
      {field : String × JsonValue}
      {written : Text}
      (hField : Field field written) :
      Inside [field] written
  | more
      {field next : String × JsonValue}
      {rest : List (String × JsonValue)}
      {written others : Text}
      (hField : Field field written)
      (hOthers : Inside (next :: rest) others) :
      Inside (field :: next :: rest) (written ++ ',' :: others)

/- The texts that stand for a field. -/
inductive Field : String × JsonValue → Text → Prop where
  | mk
      {key : String}
      {value : JsonValue}
      {before quoted between after written behind : Text}
      (hBefore : IsBlank before)
      (hKey : Quoted key.toList quoted)
      (hBetween : IsBlank between)
      (hAfter : IsBlank after)
      (hValue : Denotes value written)
      (hBehind : IsBlank behind) :
      Field (key, value)
        (before ++ quoted ++ between ++ ':' :: after ++
          written ++ behind)

end

------------------------------------------------------------
-- Strings
------------------------------------------------------------

theorem hexValue?_digitChar :
    ∀ n < 16, hexValue? (Nat.digitChar n) = some n := by
  decide

/- A character is written as the grammar has it. -/
theorem spells_escape
    (c : Char) :
    Spells c (escape c) := by
  unfold escape
  split_ifs with hQuote hBackslash hLine hReturn hTab
    hBackspace hFeed hControl
  · rw [hQuote]
    exact .quote
  · rw [hBackslash]
    exact .backslash
  · rw [hLine]
    exact .newLine
  · rw [hReturn]
    exact .return
  · rw [hTab]
    exact .tab
  · rw [← Char.ofNat_toNat c, hBackspace]
    exact .backspace
  · rw [← Char.ofNat_toNat c, hFeed]
    exact .formFeed
  · refine .code (hexValue?_digitChar 0 (by decide))
      (hexValue?_digitChar 0 (by decide))
      (hexValue?_digitChar _ (by omega))
      (hexValue?_digitChar _ (by omega)) ?_
    omega
  · exact .plain (by omega) hQuote hBackslash

theorem spellsAll_flatMap
    (text : Text) :
    SpellsAll text (text.flatMap escape) := by
  induction text with
  | nil => exact .nil
  | cons c rest ih => exact .cons (spells_escape c) ih

/- A text between quotes is read back as it was. -/
theorem quoted_quote
    (text : Text) :
    Quoted text (quote text) :=
  ⟨_, spellsAll_flatMap text, rfl⟩

------------------------------------------------------------
-- Numbers
------------------------------------------------------------

theorem eq_zero_of_digitChar :
    ∀ n < 10, Nat.digitChar n = '0' → n = 0 := by
  decide

/- Only zero starts with the digit zero. -/
theorem eq_zero_of_head?_toDigits
    {n : Nat}
    (hHead : (Nat.toDigits 10 n).head? = some '0') :
    n = 0 := by
  induction n using Nat.strongRecOn with
  | ind n ih =>
      by_cases hSmall : n < 10
      · rw [Nat.toDigits_of_lt_base hSmall] at hHead
        exact eq_zero_of_digitChar n hSmall
          (Option.some.inj hHead)
      · rw [Nat.toDigits_of_base_le (by decide) (by omega),
          List.head?_append,
          List.head?_eq_some_head Nat.toDigits_ne_nil,
          Option.some_or,
          ← List.head?_eq_some_head] at hHead
        have hZero := ih (n / 10) (by omega) hHead
        omega

theorem isNumeral_toString
    (n : Nat) :
    IsNumeral n (toString n).toList := by
  rw [Nat.toString_eq_repr, Nat.toList_repr]
  exact
    { isDigit := fun c hMem =>
        Nat.isDigit_of_mem_toDigits (by decide) (by decide) hMem
      value := Nat.ofDigitChars_ten_toDigits
      ne_nil := Nat.toDigits_ne_nil
      leading := fun hHead => by
        rw [eq_zero_of_head?_toDigits hHead]
        rfl }

------------------------------------------------------------
-- Values
------------------------------------------------------------

theorem isBlank_newLine
    (depth : Nat) :
    IsBlank (newLine depth) := by
  intro c hMem
  rcases List.mem_cons.mp hMem with rfl | hSpace
  · decide
  · rw [List.eq_of_mem_replicate hSpace]
    decide

theorem isBlank_nil : IsBlank [] :=
  fun _ hMem => absurd hMem List.not_mem_nil

/- A field is written on a line of its own. -/
theorem field_render
    {depth : Nat}
    {key : String}
    {value : JsonValue}
    {written behind : Text}
    (hValue : Denotes value written)
    (hBehind : IsBlank behind) :
    Field (key, value)
      (newLine depth ++ quote key.toList ++
        ':' :: ' ' :: written ++ behind) := by
  have hSpace : IsBlank [' '] := by
    intro c hMem
    rw [List.mem_singleton.mp hMem]
    decide
  have hField :=
    Field.mk (isBlank_newLine depth) (quoted_quote key.toList)
      isBlank_nil hSpace hValue hBehind
  rw [List.append_nil, List.append_assoc _ _ written] at hField
  exact hField

mutual

/- Every value is written as a text that denotes it. -/
theorem denotes_render
    (depth : Nat) :
    ∀ value, Denotes value (render depth value)
  | null => .null
  | bool true => .true
  | bool false => .false
  | number n => .number (isNumeral_toString n)
  | string text => .string (quoted_quote text)
  | object [] => .object (.none isBlank_nil)
  | object (field :: rest) => by
      unfold render
      rw [List.cons_append, List.cons_append]
      exact .object
        (inside_renderFields depth (field :: rest)
          (List.cons_ne_nil _ _))

/- The fields of an object are written one after the other. -/
theorem inside_renderFields
    (depth : Nat) :
    ∀ fields, fields ≠ [] →
      Inside fields
        (List.intercalate [','] (renderFields depth fields) ++
          newLine depth)
  | [], hNe => absurd rfl hNe
  | [(key, value)], _ => by
      unfold renderFields renderFields
      rw [List.intercalate_singleton]
      exact .last
        (field_render (denotes_render (depth + 1) value)
          (isBlank_newLine depth))
  | (key, value) :: next :: rest, _ => by
      have hField :=
        @field_render (depth + 1) key value _ _
          (denotes_render (depth + 1) value) isBlank_nil
      have hOthers :=
        inside_renderFields depth (next :: rest)
          (List.cons_ne_nil _ _)
      rw [List.append_nil] at hField
      have hTogether := Inside.more hField hOthers
      unfold renderFields at hTogether ⊢
      unfold renderFields
      rw [List.intercalate_cons_cons, List.append_assoc,
        List.append_assoc]
      exact hTogether

end

end JsonValue

end NotifyScope
