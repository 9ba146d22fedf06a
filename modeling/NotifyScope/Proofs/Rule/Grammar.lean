import NotifyScope.Proofs.Rule.Template
import NotifyScope.Rule.Basic

/-
  The grammar of declaration lines.  A line is read from left
  to right without ever going back: white space is taken as
  far as it goes, and the first name that fits is kept.  This
  finds all that the grammar admits, since no part of a line
  that has to follow white space starts with any, and since a
  line can be read in one way only: but for white space it is
  the template with the name filled in, and a brace.

  Key definitions include:
    * `Rule.names`
    * `Rule.IsDeclaration`

  Main declarations:
    * `Rule.declaration_eq`
    * `Rule.IsDeclaration.name_eq`
    * `Rule.declaredName?_eq_some_iff`
-/

------------------------------------------------------------
-- Templates of Rules
------------------------------------------------------------

namespace NotifyScope

namespace Rule

open Identifier

/- The names of the method before and after the rewrite. -/
def names
    (rule : Rule) : List Text :=
  [rule.oldName, rule.newName]

variable {rule : Rule} {name other : Text} {line : Line}

theorem isName_of_mem_names
    {name : Text}
    (hName : name ∈ rule.names) :
    isName name = true := by
  unfold names at hName
  simp only [List.mem_cons, List.not_mem_nil, or_false]
    at hName
  rcases hName with rfl | rfl
  · exact rule.oldName_isName
  · exact rule.newName_isName

/- The parts that a text is cut into make it up. -/
theorem eq_of_cut?
    {separator text before after : Text}
    (hCut :
      Text.cut? separator text = some (before, after)) :
    text = before ++ (separator ++ after) := by
  induction text generalizing before with
  | nil => cases hCut
  | cons c rest ih =>
      rw [Text.cut?] at hCut
      split at hCut
      · rename_i hPrefix
        rw [List.isPrefixOf_iff_prefix] at hPrefix
        rcases hPrefix with ⟨tail, hTail⟩
        cases hCut
        rw [← hTail, List.drop_left]
        rfl
      · rw [Option.map_eq_some_iff] at hCut
        rcases hCut with ⟨⟨front, back⟩, hRest, hEq⟩
        cases hEq
        rw [ih hRest]
        rfl

/- A declaration is its template with the place for a name. -/
theorem declaration_eq
    (rule : Rule) :
    rule.declaration =
      rule.template.before ++
        (Template.placeholder ++ rule.template.after) := by
  have hOf := rule.declaration_ofText?
  unfold Template.ofText? at hOf
  split at hOf
  · cases hOf
  · rename_i before after hCut
    split at hOf
    · cases hOf
    · rw [Option.some.injEq] at hOf
      rw [← hOf]
      exact eq_of_cut? hCut

/- A template starts without white space. -/
theorem isBlank_of_mem_head?_before
    {c : Char}
    (hHead : c ∈ rule.template.before.head?) :
    Text.isBlank c = false := by
  have hTrim :
      c ∈ (Text.trim rule.declaration).head? := by
    rw [rule.declaration_trim, rule.declaration_eq,
      List.head?_append, hHead]
    rfl
  exact Text.isBlank_of_mem_head?_trim hTrim

/- A template ends without white space. -/
theorem isBlank_of_mem_getLast?_after
    {c : Char}
    (hLast : c ∈ rule.template.after.getLast?) :
    Text.isBlank c = false := by
  have hTrim :
      c ∈ (Text.trim rule.declaration).getLast? := by
    rw [rule.declaration_trim, rule.declaration_eq,
      List.getLast?_append, List.getLast?_append, hLast]
    rfl
  exact Text.isBlank_of_mem_getLast?_trim hTrim

end Rule

------------------------------------------------------------
-- What Is Printed
------------------------------------------------------------

namespace Text

/- The characters of a text that are no white space. -/
def printed
    (text : Text) : Text :=
  text.filter fun c => !isBlank c

@[simp] theorem printed_append
    (left right : Text) :
    printed (left ++ right) =
      printed left ++ printed right :=
  List.filter_append left right

theorem printed_of_allBlank
    {text : Text}
    (hBlank : allBlank text = true) :
    printed text = [] := by
  unfold printed
  rw [List.filter_eq_nil_iff]
  intro c hc
  rw [List.all_eq_true.mp hBlank c hc]
  decide

theorem printed_of_isName
    {name : Text}
    (hName : Identifier.isName name = true) :
    printed name = name := by
  unfold printed
  rw [List.filter_eq_self]
  intro c hc
  rw [Identifier.not_isBlank_of_isPart
    (Identifier.isPart_of_mem_isName hName c hc)]
  rfl

end Text

/- But for white space a text is the part it stands for. -/
theorem Template.Fits.printed_eq
    {part text : Text}
    (hFits : Template.Fits part text) :
    Text.printed text = Text.printed part := by
  induction hFits with
  | nil => rfl
  | @char c part text hChar _ ih =>
      rw [← List.singleton_append, Text.printed_append, ih,
        ← List.singleton_append (l := part),
        Text.printed_append]
  | @gap run blank part text hRun hBlank _ _ ih =>
      rw [Text.printed_append, Text.printed_append,
        Text.printed_of_allBlank hRun.2,
        Text.printed_of_allBlank hBlank.2, ih]

------------------------------------------------------------
-- Declaration Lines
------------------------------------------------------------

namespace Rule

open Identifier

variable {rule : Rule} {name other : Text} {line : Line}

/- The white space that may stand in front of a declaration. -/
def isIndent
    (c : Char) : Bool :=
  c == ' ' || c == '\t'

theorem isBlank_of_isIndent
    {c : Char}
    (hIndent : isIndent c = true) :
    Text.isBlank c = true := by
  unfold isIndent at hIndent
  rw [Bool.or_eq_true, beq_iff_eq, beq_iff_eq] at hIndent
  rcases hIndent with rfl | rfl
  · decide
  · decide

/- What a line declares, with its indentation dropped. -/
theorem declaredName?_eq
    (line : Line) :
    rule.declaredName? line =
      (Template.dropPieces?
        (Template.pieces rule.template.before)
        (line.dropWhile isIndent)).bind fun rest =>
          rule.names.find? fun name =>
            rule.template.continuesWith name rest := rfl

theorem isIndent_iff
    {c : Char} :
    isIndent c = true ↔ c = ' ' ∨ c = '\t' := by
  unfold isIndent
  rw [Bool.or_eq_true, beq_iff_eq, beq_iff_eq]

/- A name starts without white space. -/
theorem not_isBlank_of_mem_head?
    {name : Text}
    (hName : name ∈ rule.names)
    (back : Text) :
    ∀ c ∈ (name ++ back).head?, Text.isBlank c = false := by
  have hIsName := isName_of_mem_names hName
  intro c hc
  rw [List.head?_append_of_ne_nil _
    (ne_nil_of_isName hIsName)] at hc
  exact not_isBlank_of_isPart
    (isPart_of_mem_isName hIsName c
      (List.mem_of_mem_head? hc))

/-
  A declaration line: spaces and tabs, the template with a
  name filled in, and a brace between white space.
-/
def IsDeclaration
    (rule : Rule)
    (name : Text)
    (line : Line) : Prop :=
  ∃ indent front back space rest,
    line =
      indent ++ (front ++ (name ++ (back ++
        (space ++ '\x7b' :: rest)))) ∧
      (∀ c ∈ indent, c = ' ' ∨ c = '\t') ∧
      Template.Fits rule.template.before front ∧
      Template.Fits rule.template.after back ∧
      Text.allBlank space = true ∧
      Text.allBlank rest = true

/- But for white space the line is the template, filled in. -/
theorem IsDeclaration.printed_eq
    (hName : name ∈ rule.names)
    (hLine : rule.IsDeclaration name line) :
    Text.printed line =
      Text.printed rule.template.before ++
        (name ++
          (Text.printed rule.template.after ++
            ['\x7b'])) := by
  rcases hLine with
    ⟨indent, front, back, space, rest, rfl, hIndent, hFront,
      hBack, hSpace, hRest⟩
  have hBlank : Text.allBlank indent = true :=
    List.all_eq_true.mpr fun c hc =>
      isBlank_of_isIndent (isIndent_iff.mpr (hIndent c hc))
  have hBrace : Text.printed ['\x7b'] = ['\x7b'] := by
    decide
  rw [← List.singleton_append (l := rest)]
  simp only [Text.printed_append, hFront.printed_eq,
    hBack.printed_eq, Text.printed_of_allBlank hBlank,
    Text.printed_of_allBlank hSpace,
    Text.printed_of_allBlank hRest, hBrace,
    Text.printed_of_isName (isName_of_mem_names hName),
    List.nil_append, List.append_nil]

/- A line declares one name only. -/
theorem IsDeclaration.name_eq
    (hName : name ∈ rule.names)
    (hOther : other ∈ rule.names)
    (hLine : rule.IsDeclaration name line)
    (hAgain : rule.IsDeclaration other line) :
    name = other := by
  have hBoth := (hLine.printed_eq hName).symm.trans
    (hAgain.printed_eq hOther)
  exact List.append_cancel_right
    (List.append_cancel_left hBoth)

/- A name that is found is declared. -/
theorem isDeclaration_of_declaredName?
    (hFound : rule.declaredName? line = some name) :
    name ∈ rule.names ∧ rule.IsDeclaration name line := by
  rw [declaredName?_eq, Option.bind_eq_some_iff] at hFound
  rcases hFound with ⟨tail, hBefore, hFind⟩
  have hContinues := List.find?_some hFind
  unfold Template.continuesWith at hContinues
  rw [Bool.and_eq_true, List.isPrefixOf_iff_prefix,
    Option.any_eq_true] at hContinues
  rcases hContinues with ⟨⟨more, rfl⟩, last, hAfter, hOpens⟩
  rw [List.drop_left] at hAfter
  rcases Template.exists_fits_of_dropPieces? hBefore with
    ⟨front, hBody, hFront⟩
  rcases Template.exists_fits_of_dropPieces? hAfter with
    ⟨back, rfl, hBack⟩
  rcases Template.opensBlock_iff.mp hOpens with
    ⟨space, rest, rfl, hSpace, hRest⟩
  have hLine :=
    List.takeWhile_append_dropWhile (p := isIndent)
      (l := line)
  rw [hBody] at hLine
  refine ⟨List.mem_of_find?_eq_some hFind,
    line.takeWhile isIndent, front, back, space, rest,
    hLine.symm, ?_, hFront, hBack, hSpace, hRest⟩
  intro c hc
  exact isIndent_iff.mp (List.mem_takeWhile_imp hc)

/- The indentation ends where the template starts. -/
theorem dropWhile_isIndent_append
    {indent front tail : Text}
    (hIndent : ∀ c ∈ indent, c = ' ' ∨ c = '\t')
    (hFront : Template.Fits rule.template.before front)
    (hTail : ∀ c ∈ tail.head?, Text.isBlank c = false) :
    (indent ++ (front ++ tail)).dropWhile isIndent =
      front ++ tail := by
  have hHead :
      ∀ c ∈ (front ++ tail).head?,
        Text.isBlank c = false := by
    intro c hc
    rw [List.head?_append] at hc
    cases hFirst : front.head? with
    | none =>
        rw [hFirst] at hc
        exact hTail c hc
    | some d =>
        rw [hFirst] at hc
        cases hc
        exact hFront.isBlank_head
          (fun _ => isBlank_of_mem_head?_before) c hFirst
  rw [List.dropWhile_append_of_pos fun c hc =>
    isIndent_iff.mpr (hIndent c hc)]
  cases hBody : front ++ tail with
  | nil => rfl
  | cons c body =>
      apply List.dropWhile_cons_of_neg
      intro hYes
      have hNot := hHead c (by rw [hBody]; rfl)
      rw [isBlank_of_isIndent hYes] at hNot
      cases hNot

/- Where a name is declared, one is found. -/
theorem IsDeclaration.isSome_declaredName?
    (hName : name ∈ rule.names)
    (hLine : rule.IsDeclaration name line) :
    (rule.declaredName? line).isSome = true := by
  rcases hLine with
    ⟨indent, front, back, space, rest, rfl, hIndent, hFront,
      hBack, hSpace, hRest⟩
  have hHead := not_isBlank_of_mem_head? hName
    (back ++ (space ++ '\x7b' :: rest))
  have hBefore := hFront.dropPieces?_append (.inr hHead)
  have hAfter :
      Template.dropPieces?
          (Template.pieces rule.template.after)
          (back ++ (space ++ '\x7b' :: rest)) =
        some (space ++ '\x7b' :: rest) :=
    hBack.dropPieces?_append
      (.inl fun _ => isBlank_of_mem_getLast?_after)
  have hContinues :
      rule.template.continuesWith name
        (name ++ (back ++ (space ++ '\x7b' :: rest))) =
          true := by
    unfold Template.continuesWith
    rw [List.drop_left, hAfter, Option.any_some,
      Template.opensBlock_iff.mpr
        ⟨space, rest, rfl, hSpace, hRest⟩,
      Bool.and_true, List.isPrefixOf_iff_prefix]
    exact List.prefix_append name _
  rw [declaredName?_eq,
    dropWhile_isIndent_append hIndent hFront hHead, hBefore,
    Option.bind_some, List.find?_isSome]
  exact ⟨name, hName, hContinues⟩

/- The name that is found is the one that is declared. -/
theorem declaredName?_eq_some_iff :
    rule.declaredName? line = some name ↔
      name ∈ rule.names ∧ rule.IsDeclaration name line := by
  constructor
  · exact isDeclaration_of_declaredName?
  · rintro ⟨hName, hLine⟩
    rcases Option.isSome_iff_exists.mp
        (hLine.isSome_declaredName? hName) with
      ⟨other, hFound⟩
    rcases isDeclaration_of_declaredName? hFound with
      ⟨hOther, hAgain⟩
    rw [hFound, hAgain.name_eq hOther hName hLine]

end Rule

end NotifyScope
