import NotifyScope.Proofs.Method.Location
import NotifyScope.Proofs.Rule.Grammar
import NotifyScope.Proofs.Rule.Renamed
import NotifyScope.Proofs.Rule.Standard

/-
  Declaration lines and what keeps them.  With a rule whose
  own texts keep clear of the two names, a line declares a
  method in front of a renaming exactly if it does so behind
  it, and indenting a line never makes it a declaration.

  Key definitions include:
    * `Rule.fixedLines`
    * `Rule.Clear`
    * `Rule.Plain`
    * `Rule.Place`
    * `Rule.Declares`

  Main declarations:
    * `Rule.plain_standard`
    * `Rule.declaredName?_append_left`
    * `Rule.exists_place`
    * `Rule.exists_declares`
    * `Rule.declaredName?_renamed`
-/

------------------------------------------------------------
-- Plain Rules
------------------------------------------------------------

namespace NotifyScope

namespace Rule

open Identifier

/- The lines that a rule puts in or takes out. -/
def fixedLines
    (rule : Rule) : List Line :=
  rule.marker.toList ++
    [rule.wrapOpen, rule.wrapClose, rule.legacyClose]

theorem marker_mem_fixedLines
    {rule : Rule}
    {marker : Line}
    (hMarker : rule.marker = some marker) :
    marker ∈ rule.fixedLines := by
  simp [fixedLines, hMarker]

theorem wrapOpen_mem_fixedLines
    (rule : Rule) :
    rule.wrapOpen ∈ rule.fixedLines := by
  simp [fixedLines]

theorem wrapClose_mem_fixedLines
    (rule : Rule) :
    rule.wrapClose ∈ rule.fixedLines := by
  simp [fixedLines]

theorem legacyClose_mem_fixedLines
    (rule : Rule) :
    rule.legacyClose ∈ rule.fixedLines := by
  simp [fixedLines]

/- A text in which no name stands as an identifier. -/
def Unnamed
    (rule : Rule)
    (text : Text) : Prop :=
  ∀ name ∈ rule.names, (rename name [] text).2 = 0

instance
    (rule : Rule)
    (text : Text) : Decidable (rule.Unnamed text) :=
  inferInstanceAs
    (Decidable
      (∀ name ∈ rule.names, (rename name [] text).2 = 0))

/-
  A rule whose template mentions the method in the place for
  the name only, with no identifier touching that place.
-/
structure Clear
    (rule : Rule) : Prop where
  before_unnamed : rule.Unnamed rule.template.before
  after_unnamed : rule.Unnamed rule.template.after
  before_last : ∀ c ∈ rule.template.before.getLast?,
    isPart c = false
  after_head : ∀ c ∈ rule.template.after.head?,
    isPart c = false

/-
  A rule whose own lines neither mention the method nor
  declare one, and whose template mentions it in the place
  for the name only, with no identifier touching that place.
-/
structure Plain
    (rule : Rule) : Prop where
  unnamed : ∀ line ∈ rule.fixedLines, rule.Unnamed line
  undeclared : ∀ line ∈ rule.fixedLines,
    rule.declaredName? line = none
  before_unnamed : rule.Unnamed rule.template.before
  after_unnamed : rule.Unnamed rule.template.after
  before_last : ∀ c ∈ rule.template.before.getLast?,
    isPart c = false
  after_head : ∀ c ∈ rule.template.after.head?,
    isPart c = false

theorem Plain.clear
    {rule : Rule}
    (hPlain : rule.Plain) :
    rule.Clear :=
  ⟨hPlain.before_unnamed, hPlain.after_unnamed,
    hPlain.before_last, hPlain.after_head⟩

/- The built-in rule is plain. -/
theorem plain_standard :
    standard.Plain where
  unnamed := by decide +kernel
  undeclared := by decide +kernel
  before_unnamed := by decide +kernel
  after_unnamed := by decide +kernel
  before_last := by
    intro c hLast
    cases hLast
    rfl
  after_head := by
    intro c hHead
    cases hHead
    rfl

variable {rule : Rule}

theorem Unnamed.not_mem_tokens
    {text name : Text}
    (hText : rule.Unnamed text)
    (hName : name ∈ rule.names) :
    name ∉ tokens text :=
  (rename_count_eq_zero_iff (isName_of_mem_names hName) []
    text).mp (hText name hName)

------------------------------------------------------------
-- Indentation
------------------------------------------------------------

/- A text that starts with white space declares nothing. -/
theorem dropPieces?_of_isBlank
    {c : Char}
    {text rest : Text}
    (hBlank : Text.isBlank c = true)
    (hDrop :
      Template.dropPieces?
        (Template.pieces rule.template.before)
        (c :: text) = some rest) :
    rest = c :: text := by
  cases hBefore : rule.template.before with
  | nil =>
      rw [hBefore] at hDrop
      simpa [Template.pieces, Template.dropPieces?]
        using hDrop.symm
  | cons d before =>
      have hFirst : d ∈ rule.template.before.head? := by
        rw [hBefore]
        rfl
      have hHead := isBlank_of_mem_head?_before hFirst
      rw [hBefore, Template.pieces, hHead,
        if_neg (by decide), Template.dropPieces?] at hDrop
      split at hDrop
      · rename_i hEq
        rw [hEq, hBlank] at hHead
        cases hHead
      · cases hDrop

/-
  Indenting a line keeps what it declares, or the line stops
  declaring anything: white space other than blanks and tabs
  may not stand in front of a declaration.
-/
theorem declaredName?_append_left
    (rule : Rule)
    {blank : Text}
    (line : Line)
    (hBlank : Text.allBlank blank = true) :
    rule.declaredName? (blank ++ line) =
        rule.declaredName? line ∨
      rule.declaredName? (blank ++ line) = none := by
  induction blank with
  | nil => exact .inl rfl
  | cons c blank ih =>
      unfold Text.allBlank at hBlank
      rw [List.all_cons, Bool.and_eq_true] at hBlank
      cases hIndent : isIndent c with
      | true =>
          have hSame :
              rule.declaredName? (c :: blank ++ line) =
                rule.declaredName? (blank ++ line) := by
            rw [declaredName?_eq, declaredName?_eq,
              List.cons_append,
              List.dropWhile_cons_of_pos hIndent]
          rw [hSame]
          exact ih hBlank.2
      | false =>
          right
          rw [declaredName?_eq, List.cons_append,
            List.dropWhile_cons_of_neg (by
              rw [hIndent]
              decide),
            Option.bind_eq_none_iff]
          intro rest hDrop
          rw [dropPieces?_of_isBlank hBlank.1 hDrop,
            List.find?_eq_none]
          intro name hName hContinues
          unfold Template.continuesWith at hContinues
          rw [Bool.and_eq_true, List.isPrefixOf_iff_prefix]
            at hContinues
          -- The first character would be one of the name.
          have hIsName := isName_of_mem_names hName
          cases hCase : name with
          | nil => exact ne_nil_of_isName hIsName hCase
          | cons d tail =>
              have hHead := hContinues.1
              rw [hCase, List.cons_prefix_cons] at hHead
              have hPart :=
                isPart_of_mem_isName hIsName d (by
                  rw [hCase]
                  exact List.mem_cons_self)
              rw [hHead.1, isPart_of_isBlank hBlank.1]
                at hPart
              cases hPart

------------------------------------------------------------
-- Declarations
------------------------------------------------------------

/-
  What stands in front of and behind the name in a line that
  declares a method: with either name between the two, the
  line declares that name.
-/
structure Declares
    (rule : Rule)
    (front back : Text) : Prop where
  front_last : ∀ c ∈ front.getLast?, isPart c = false
  back_head : ∀ c ∈ back.head?, isPart c = false
  front_names : ∀ name ∈ rule.names, name ∉ tokens front
  back_names : ∀ name ∈ rule.names, name ∉ tokens back
  declares : ∀ name ∈ rule.names,
    rule.declaredName? (front ++ (name ++ back)) = some name

/- What ends a declaration line holds no identifier. -/
theorem isPart_of_opensBlock
    {text : Text}
    (hOpens : Template.opensBlock text = true) :
    ∀ c ∈ text, isPart c = false := by
  rcases Template.opensBlock_iff.mp hOpens with
    ⟨space, rest, rfl, hSpace, hRest⟩
  intro c hc
  rw [List.mem_append, List.mem_cons] at hc
  rcases hc with hc | rfl | hc
  · exact isPart_of_isBlank
      (List.all_eq_true.mp hSpace c hc)
  · decide
  · exact isPart_of_isBlank
      (List.all_eq_true.mp hRest c hc)

/-
  What follows the name is what the template has behind it,
  and then something without an identifier.
-/
theorem exists_of_any
    {back : Text}
    (hBack :
      (Template.dropPieces?
        (Template.pieces rule.template.after) back).any
          Template.opensBlock = true) :
    ∃ matched rest, back = matched ++ rest ∧
      Template.Stands rule.template.after matched ∧
      ∀ c ∈ rest, isPart c = false := by
  rw [Option.any_eq_true] at hBack
  rcases hBack with ⟨rest, hDrop, hOpens⟩
  rcases Template.exists_of_dropPieces? hDrop with
    ⟨matched, hText, hStands, _⟩
  exact ⟨matched, rest, hText, hStands,
    isPart_of_opensBlock hOpens⟩

/- It touches the name only if the template does. -/
theorem isPart_head_of_any
    {back : Text}
    (hAfter : ∀ c ∈ rule.template.after.head?,
      isPart c = false)
    (hBack :
      (Template.dropPieces?
        (Template.pieces rule.template.after) back).any
          Template.opensBlock = true) :
    ∀ c ∈ back.head?, isPart c = false := by
  rcases exists_of_any hBack with
    ⟨matched, rest, rfl, hStands, hRest⟩
  intro c hc
  by_cases hNil : matched = []
  · rw [hNil, List.nil_append] at hc
    exact hRest c (List.mem_of_mem_head? hc)
  · rw [List.head?_append_of_ne_nil _ hNil] at hc
    exact hStands.isPart_head hAfter c hc

/- It mentions no name that the template does not mention. -/
theorem mem_tokens_of_any
    {name back : Text}
    (hName : isName name = true)
    (hBack :
      (Template.dropPieces?
        (Template.pieces rule.template.after) back).any
          Template.opensBlock = true)
    (hMem : name ∈ tokens back) :
    name ∈ tokens rule.template.after := by
  rcases exists_of_any hBack with
    ⟨matched, rest, rfl, hStands, hRest⟩
  rw [tokens_append (apart_of_head? matched
      fun c hc => hRest c (List.mem_of_mem_head? hc)),
    List.mem_append] at hMem
  rcases hMem with hMem | hMem
  · exact hStands.mention name hName hMem
  · exact absurd hMem (not_mem_tokens_of_forall hName hRest)

/- Two names that are followed by others are the same. -/
theorem name_eq_of_append_eq
    {left right front back : Text}
    (hLeft : isName left = true)
    (hRight : isName right = true)
    (hFront : ∀ c ∈ front.head?, isPart c = false)
    (hBack : ∀ c ∈ back.head?, isPart c = false)
    (hEq : left ++ front = right ++ back) :
    left = right := by
  have hTokens := congrArg tokens hEq
  rw [tokens_run_append front (ne_nil_of_isName hLeft)
      (isPart_of_mem_isName hLeft) hFront,
    tokens_run_append back (ne_nil_of_isName hRight)
      (isPart_of_mem_isName hRight) hBack,
    List.cons.injEq] at hTokens
  exact hTokens.1

/-
  The name is found that stands in the place for it, where no
  identifier goes on behind that place.
-/
theorem find?_eq_some_of_any
    (hAfter : ∀ c ∈ rule.template.after.head?,
      isPart c = false)
    {name back : Text}
    (hName : name ∈ rule.names)
    (hBack :
      (Template.dropPieces?
        (Template.pieces rule.template.after) back).any
          Template.opensBlock = true) :
    (rule.names.find? fun other =>
      rule.template.continuesWith other (name ++ back)) =
        some name := by
  have hHead := isPart_head_of_any hAfter hBack
  have hSelf :
      rule.template.continuesWith name (name ++ back) =
        true := by
    unfold Template.continuesWith
    rw [List.drop_left, hBack, Bool.and_true,
      List.isPrefixOf_iff_prefix]
    exact List.prefix_append name back
  have hSame : ∀ other ∈ rule.names,
      rule.template.continuesWith other (name ++ back) =
        true →
      other = name := by
    intro other hOther hContinues
    unfold Template.continuesWith at hContinues
    rw [Bool.and_eq_true, List.isPrefixOf_iff_prefix]
      at hContinues
    rcases hContinues with ⟨⟨rest, hRest⟩, hAny⟩
    rw [← hRest, List.drop_left] at hAny
    exact name_eq_of_append_eq (isName_of_mem_names hOther)
      (isName_of_mem_names hName)
      (isPart_head_of_any hAfter hAny) hHead hRest
  cases hFind :
      rule.names.find? fun other =>
        rule.template.continuesWith other (name ++ back) with
  | none =>
      have hNone := List.find?_eq_none.mp hFind name hName
      exact absurd hSelf hNone
  | some other =>
      have hContinues :
          rule.template.continuesWith other
            (name ++ back) = true := by
        simpa using List.find?_some hFind
      rw [hSame other (List.mem_of_find?_eq_some hFind)
        hContinues]

/-
  What stands around the place for the name in a line that
  declares a method: white space and the two parts of the
  template, and with another name in that place the line is
  still taken apart there.
-/
structure Place
    (rule : Rule)
    (indent matched back : Text) : Prop where
  indent_blank : Text.allBlank indent = true
  stands : Template.Stands rule.template.before matched
  drops : ∀ other,
    (∀ c ∈ other.head?, Text.isBlank c = false) →
    Template.dropPieces?
        (Template.pieces rule.template.before)
        (matched ++ other) =
      some other
  opens :
    (Template.dropPieces?
      (Template.pieces rule.template.after) back).any
        Template.opensBlock = true
  declaredName?_eq : ∀ name ∈ rule.names,
    rule.declaredName?
        (indent ++ (matched ++ (name ++ back))) =
      rule.names.find? fun other =>
        rule.template.continuesWith other (name ++ back)

/- A declaration line has a place for the name. -/
theorem exists_place
    {line : Line}
    {name : Text}
    (hDeclares : rule.declaredName? line = some name) :
    name ∈ rule.names ∧
      ∃ indent matched back,
        line = indent ++ (matched ++ (name ++ back)) ∧
          rule.Place indent matched back := by
  rcases isDeclaration_of_declaredName? hDeclares with
    ⟨hName, indent, front, back, space, rest, rfl, hIndent,
      hFront, hBack, hSpace, hRest⟩
  refine ⟨hName, indent, front, _, rfl, ?_⟩
  constructor
  · exact List.all_eq_true.mpr fun c hc =>
      isBlank_of_isIndent (isIndent_iff.mpr (hIndent c hc))
  · exact hFront.stands
  · exact fun _ hOther =>
      hFront.dropPieces?_append (.inr hOther)
  · rw [hBack.dropPieces?_append
      (.inl fun _ => isBlank_of_mem_getLast?_after),
      Option.any_some, Template.opensBlock_iff]
    exact ⟨space, rest, rfl, hSpace, hRest⟩
  · intro other hOther
    have hHead := not_isBlank_of_mem_head? hOther
      (back ++ (space ++ '\x7b' :: rest))
    rw [declaredName?_eq,
      dropWhile_isIndent_append hIndent hFront hHead,
      hFront.dropPieces?_append (.inr hHead)]
    rfl

/- A declaration line, taken apart at the name. -/
theorem exists_declares
    (hClear : rule.Clear)
    {line : Line}
    {name : Text}
    (hDeclares : rule.declaredName? line = some name) :
    name ∈ rule.names ∧
      ∃ front back, line = front ++ (name ++ back) ∧
        rule.Declares front back := by
  rcases exists_place hDeclares with
    ⟨hName, indent, matched, back, rfl, hPlace⟩
  have hBlank := hPlace.indent_blank
  refine ⟨hName, indent ++ matched, back,
    by rw [List.append_assoc], ?_⟩
  constructor
  · intro c hc
    by_cases hNil : matched = []
    · rw [hNil, List.append_nil] at hc
      exact isPart_of_isBlank (List.all_eq_true.mp hBlank c
        (List.mem_of_mem_getLast? hc))
    · rw [List.getLast?_append_of_ne_nil _ hNil] at hc
      exact hPlace.stands.isPart_last hClear.before_last c hc
  · exact isPart_head_of_any hClear.after_head hPlace.opens
  · intro other hOtherName hMem
    rw [tokens_append (apart_of_allBlank_left _ hBlank),
      List.mem_append] at hMem
    have hIsName := isName_of_mem_names hOtherName
    rcases hMem with hMem | hMem
    · apply not_mem_tokens_of_forall hIsName ?_ hMem
      intro c hc
      exact isPart_of_isBlank
        (List.all_eq_true.mp hBlank c hc)
    · exact hClear.before_unnamed.not_mem_tokens hOtherName
        (hPlace.stands.mention other hIsName hMem)
  · intro other hOtherName hMem
    exact hClear.after_unnamed.not_mem_tokens hOtherName
      (mem_tokens_of_any (isName_of_mem_names hOtherName)
        hPlace.opens hMem)
  · intro other hOtherName
    rw [List.append_assoc,
      hPlace.declaredName?_eq other hOtherName]
    exact find?_eq_some_of_any hClear.after_head hOtherName
      hPlace.opens

------------------------------------------------------------
-- Renaming
------------------------------------------------------------

section Renaming

variable (hNe : rule.oldName ≠ rule.newName)

include hNe

/- A name in the place for it is renamed, the rest is not. -/
theorem Declares.renamed_eq
    {front back name : Text}
    (hDeclares : rule.Declares front back)
    (hName : name ∈ rule.names) :
    rule.renamed (front ++ (name ++ back)) =
      front ++ (rule.newName ++ back) := by
  have hOld : rule.oldName ∈ rule.names :=
    List.mem_cons_self
  have hMiddle :
      (rename rule.oldName rule.newName name).1 =
        rule.newName := by
    have hTokens := tokens_of_isName
      (isName_of_mem_names hName)
    rw [rename_eq_tokens rule.oldName_isName, hTokens]
    unfold names at hName
    simp only [List.mem_cons, List.not_mem_nil, or_false]
      at hName
    rcases hName with rfl | rfl
    · simp [replaceToken]
    · simp [replaceToken, Ne.symm hNe]
  rw [rule.renamed_of_ne hNe,
    rename_append rule.oldName_isName rule.newName
      (apart_of_getLast? _ hDeclares.front_last),
    rename_append rule.oldName_isName rule.newName
      (apart_of_head? _ hDeclares.back_head), hMiddle,
    rename_eq_self rule.oldName_isName _
      (hDeclares.front_names _ hOld),
    rename_eq_self rule.oldName_isName _
      (hDeclares.back_names _ hOld)]

/-
  A line that declares a method behind the renaming declared
  one in front of it: all that can have changed is the name.
-/
theorem Declares.eq_of_renamed_eq
    {line : Line}
    {front back name : Text}
    (hDeclares : rule.Declares front back)
    (hName : name ∈ rule.names)
    (hLine :
      rule.renamed line = front ++ (name ++ back)) :
    ∃ other ∈ rule.names,
      line = front ++ (other ++ back) := by
  have hIsName := isName_of_mem_names hName
  have hTokens :
      (tokens line).map
          (replaceToken rule.oldName rule.newName) =
        tokens front ++ (name :: tokens back) := by
    rw [← tokens_rename rule.oldName_isName
        rule.newName_isName, ← rule.renamed_of_ne hNe, hLine,
      tokens_append
        (apart_of_getLast? _ hDeclares.front_last),
      tokens_run_append back (ne_nil_of_isName hIsName)
        (isPart_of_mem_isName hIsName) hDeclares.back_head]
  rw [List.map_eq_append_iff] at hTokens
  rcases hTokens with ⟨left, right, hLeftRight, hLeft, hRight⟩
  rw [List.map_eq_cons_iff] at hRight
  rcases hRight with ⟨token, rest, rfl, hToken, hRest⟩
  have hNew : rule.newName ∈ rule.names := by
    unfold names
    simp
  -- Tokens that became others than the new name are as before.
  have hSame : ∀ parts after : List Text,
      parts.map (replaceToken rule.oldName rule.newName) =
        after →
      rule.newName ∉ after → parts = after := by
    intro parts after hMap hNot
    rw [← hMap]
    conv_lhs => rw [← List.map_id parts]
    apply List.map_congr_left
    intro part hPart
    unfold replaceToken
    split
    · rename_i hOld
      exact absurd (hMap ▸ List.mem_map.mpr
        ⟨part, hPart, by rw [replaceToken, if_pos hOld]⟩)
        hNot
    · rfl
  have hFront := hSame left _ hLeft
    (hDeclares.front_names _ hNew)
  have hBack := hSame rest _ hRest
    (hDeclares.back_names _ hNew)
  have hText := congrArg List.flatten hLeftRight
  rw [flatten_tokens, hFront, hBack, List.flatten_append,
    List.flatten_cons, flatten_tokens, flatten_tokens]
    at hText
  refine ⟨token, ?_, hText⟩
  unfold replaceToken at hToken
  split at hToken
  · rename_i hOld
    rw [hOld]
    exact List.mem_cons_self
  · rw [hToken]
    exact hName

end Renaming

/- What a line declares once it is renamed. -/
theorem declaredName?_renamed
    (hClear : rule.Clear)
    (line : Line) :
    rule.declaredName? (rule.renamed line) =
      (rule.declaredName? line).map fun _ =>
        rule.newName := by
  have hNew : rule.newName ∈ rule.names := by
    unfold names
    simp
  by_cases hEq : rule.oldName = rule.newName
  · rw [rule.renamed_of_eq hEq]
    cases hLine : rule.declaredName? line with
    | none => rfl
    | some name =>
        have hName := (exists_declares hClear hLine).1
        unfold names at hName
        rw [hEq] at hName
        simp only [List.mem_cons, List.not_mem_nil,
          or_false, or_self] at hName
        rw [hName, Option.map_some]
  · cases hLine : rule.declaredName? line with
    | some name =>
        rcases exists_declares hClear hLine with
          ⟨hName, front, back, rfl, hDeclares⟩
        rw [hDeclares.renamed_eq hEq hName,
          hDeclares.declares _ hNew, Option.map_some]
    | none =>
        cases hRenamed :
            rule.declaredName? (rule.renamed line) with
        | none => rfl
        | some name =>
            rcases exists_declares hClear hRenamed with
              ⟨hName, front, back, hText, hDeclares⟩
            rcases hDeclares.eq_of_renamed_eq hEq hName hText
              with ⟨other, hOther, rfl⟩
            rw [hDeclares.declares other hOther] at hLine
            cases hLine

end Rule

------------------------------------------------------------
-- Opening Lines
------------------------------------------------------------

namespace Method

open Rule

variable {rule : Rule}

/- A declaration line stays one once it is renamed. -/
theorem opener?_renamed
    (hClear : rule.Clear)
    (line : Line) :
    opener? rule (rule.renamed line) =
      (opener? rule line).map fun _ => rule.newName := by
  unfold opener?
  rw [declaredName?_renamed hClear,
    rule.braceBalance_renamed]
  cases rule.declaredName? line with
  | none => rfl
  | some name =>
      simp only [Option.map_some]
      split
      · rfl
      · rfl

/- Indenting a line does not make it a declaration. -/
theorem opener?_append_left
    {blank : Text}
    {line : Line}
    (hBlank : Text.allBlank blank = true)
    (hNone : opener? rule line = none) :
    opener? rule (blank ++ line) = none := by
  unfold opener? at hNone ⊢
  rw [Line.braceBalance_append,
    Line.braceBalance_of_allBlank hBlank, Int.zero_add]
  rcases declaredName?_append_left rule line hBlank with
    hSame | hNothing
  · rw [hSame]
    exact hNone
  · rw [hNothing]

/- A line that does not open one block is no opener. -/
theorem opener?_of_braceBalance_ne
    {line : Line}
    (hBalance : Line.braceBalance line ≠ 1) :
    opener? rule line = none := by
  cases hOpener : opener? rule line with
  | none => rfl
  | some name =>
      exact absurd (braceBalance_of_opener? hOpener) hBalance

/- A line that is no declaration in any case opens nothing. -/
theorem opener?_of_declaredName?
    {line : Line}
    (hNone : rule.declaredName? line = none) :
    opener? rule line = none := by
  unfold opener?
  rw [hNone]

end Method

end NotifyScope
