import NotifyScope.Proofs.Identifier.Occurrence
import NotifyScope.Proofs.Identifier.Words
import NotifyScope.Proofs.Rewrite.Unchanged

/-
  Whether a declaration that is found under the old name is
  found under the new one once it is renamed.  A template says
  where the name stands, a renaming looks for an identifier of
  its own, and the two agree only if the place for the name is
  bordered by no identifier and is the only one in which the
  template mentions the old name.  A line has the words of the
  template with the name filled in, so nothing else can make
  up for that.

  Key definitions include:
    * `Rule.filled`
    * `Rule.Replaceable`

  Main declarations:
    * `Rule.words_of_declaredName?`
    * `Rule.declaredName?_renamed_iff`
    * `Method.declaredName?_renameDeclaration_iff`
-/

------------------------------------------------------------
-- Words of a Declaration
------------------------------------------------------------

namespace NotifyScope

namespace Rule

open Identifier

variable {rule : Rule}

/- The template of a rule with a name filled in. -/
def filled
    (rule : Rule)
    (name : Text) : Text :=
  rule.template.before ++ (name ++ rule.template.after)

/-
  A declaration line has the words of the template with the
  declared name filled in, and no others.
-/
theorem words_of_declaredName?
    {line : Line}
    {name : Text}
    (hDeclares : rule.declaredName? line = some name) :
    words line = words (rule.filled name) := by
  rcases isDeclaration_of_declaredName? hDeclares with
    ⟨_, indent, front, back, space, rest, rfl, hIndent,
      hFront, hBack, hSpace, hRest⟩
  have hGap : ∀ c ∈ indent, isPart c = false := by
    intro c hc
    exact isPart_of_isBlank (isBlank_of_isIndent
      (isIndent_iff.mpr (hIndent c hc)))
  have hEnd := isPart_of_opensBlock
    (Template.opensBlock_iff.mpr
      ⟨space, rest, rfl, hSpace, hRest⟩)
  unfold filled
  calc words (indent ++ (front ++ (name ++ (back ++
          (space ++ '\x7b' :: rest)))))
      = words (front ++ (name ++ (back ++
          (space ++ '\x7b' :: rest)))) :=
        words_gap_append _ hGap
    _ = words (rule.template.before ++ (name ++ (back ++
          (space ++ '\x7b' :: rest)))) :=
        (hFront.sameWords [] _).symm
    _ = words ((rule.template.before ++ name) ++ (back ++
          (space ++ '\x7b' :: rest))) := by
        rw [List.append_assoc]
    _ = words ((rule.template.before ++ name) ++
          (rule.template.after ++
            (space ++ '\x7b' :: rest))) :=
        (hBack.sameWords _ _).symm
    _ = words ((rule.template.before ++
          (name ++ rule.template.after)) ++
            (space ++ '\x7b' :: rest)) := by
        simp only [List.append_assoc]
    _ = words (rule.template.before ++
          (name ++ rule.template.after)) :=
        words_append_gap _ hEnd

------------------------------------------------------------
-- Replaceable Names
------------------------------------------------------------

/-
  A rule whose template has no identifier that touches the
  place for the name, and mentions the old name nowhere else.
-/
structure Replaceable
    (rule : Rule) : Prop where
  before_last : ∀ c ∈ rule.template.before.getLast?,
    isPart c = false
  after_head : ∀ c ∈ rule.template.after.head?,
    isPart c = false
  before_unnamed : ¬ Occurs rule.oldName rule.template.before
  after_unnamed : ¬ Occurs rule.oldName rule.template.after

/- The name can be replaced in a template that is clear. -/
theorem Clear.replaceable
    (hClear : rule.Clear) :
    rule.Replaceable where
  before_last := hClear.before_last
  after_head := hClear.after_head
  before_unnamed := by
    rw [occurs_iff_mem_tokens rule.oldName_isName]
    exact hClear.before_unnamed.not_mem_tokens
      List.mem_cons_self
  after_unnamed := by
    rw [occurs_iff_mem_tokens rule.oldName_isName]
    exact hClear.after_unnamed.not_mem_tokens
      List.mem_cons_self

/- In its place the old name, and it alone, is replaced. -/
theorem Replaceable.renamed_eq
    (hReplaceable : rule.Replaceable)
    (hNe : rule.oldName ≠ rule.newName)
    {indent matched back : Text}
    (hPlace : rule.Place indent matched back) :
    rule.renamed
        (indent ++ (matched ++ (rule.oldName ++ back))) =
      indent ++ (matched ++ (rule.newName ++ back)) := by
  have hOld := rule.oldName_isName
  have hBlank := hPlace.indent_blank
  have hIndent : rule.oldName ∉ tokens indent := by
    apply not_mem_tokens_of_forall hOld
    intro c hc
    exact isPart_of_isBlank
      (List.all_eq_true.mp hBlank c hc)
  have hMatched : rule.oldName ∉ tokens matched := by
    intro hMem
    exact hReplaceable.before_unnamed
      (occurs_of_mem_tokens hOld
        (hPlace.stands.mention _ hOld hMem))
  have hBack : rule.oldName ∉ tokens back := by
    intro hMem
    exact hReplaceable.after_unnamed
      (occurs_of_mem_tokens hOld
        (mem_tokens_of_any hOld hPlace.opens hMem))
  have hName :
      (rename rule.oldName rule.newName rule.oldName).1 =
        rule.newName := by
    rw [rename_eq_tokens hOld, tokens_of_isName hOld]
    simp [replaceToken]
  rw [rule.renamed_of_ne hNe,
    rename_append hOld _ (apart_of_allBlank_left _ hBlank),
    rename_append hOld _ (apart_of_getLast? _
      (hPlace.stands.isPart_last hReplaceable.before_last)),
    rename_append hOld _ (apart_of_head? _
      (isPart_head_of_any hReplaceable.after_head
        hPlace.opens)),
    rename_eq_self hOld _ hIndent,
    rename_eq_self hOld _ hMatched,
    rename_eq_self hOld _ hBack, hName]

/-
  A line that declares the old name declares the new one after
  the renaming exactly if the template lets it be replaced.
-/
theorem declaredName?_renamed_iff
    (hNe : rule.oldName ≠ rule.newName)
    {line : Line}
    (hDeclares :
      rule.declaredName? line = some rule.oldName) :
    rule.declaredName? (rule.renamed line) =
        some rule.newName ↔
      rule.Replaceable := by
  have hOld := rule.oldName_isName
  constructor
  · intro hRenamed
    have hWords :
        (words (rule.filled rule.oldName)).map
            (replaceToken rule.oldName rule.newName) =
          words (rule.filled rule.newName) := by
      rw [← words_of_declaredName? hDeclares,
        ← words_of_declaredName? hRenamed,
        rule.renamed_of_ne hNe,
        words_rename hOld rule.newName_isName]
    rcases apart_of_words_eq hOld rule.newName_isName hNe
        hWords with
      ⟨hBefore, hAfter, hFront, hBack⟩
    rw [← occurs_iff_mem_tokens hOld] at hFront hBack
    exact ⟨hBefore, hAfter, hFront, hBack⟩
  · intro hReplaceable
    rcases exists_place hDeclares with
      ⟨_, indent, matched, back, rfl, hPlace⟩
    have hNew : rule.newName ∈ rule.names :=
      List.mem_cons_of_mem _ List.mem_cons_self
    rw [hReplaceable.renamed_eq hNe hPlace,
      hPlace.declaredName?_eq _ hNew]
    exact find?_eq_some_of_any hReplaceable.after_head hNew
      hPlace.opens

end Rule

------------------------------------------------------------
-- Renamed Declarations
------------------------------------------------------------

namespace Method

variable {rule : Rule} {method : Method} {lines : Lines}

/-
  The renamed declaration line stands where it was, or one
  line below if a marker was put in above it.
-/
theorem get_renameDeclaration
    (hStart : method.start < lines.length) :
    Lines.get (method.renameDeclaration rule lines).1
        (method.start +
          (method.renameDeclaration rule
            lines).2.markerInserted.toNat) =
      rule.renamed (Lines.get lines method.start) := by
  rw [renameDeclaration_snd]
  cases hSome : rule.marker with
  | none =>
      rw [renameDeclaration_of_none method lines hSome]
      exact Lines.get_set_self hStart _
  | some marker =>
      rw [renameDeclaration_of_some method lines hSome,
        Option.any_some]
      unfold Lines.insertMarker
      rw [hasMarkerAbove_set]
      cases Lines.hasMarkerAbove lines method.start
          marker with
      | true => exact Lines.get_set_self hStart _
      | false =>
          rw [if_neg Bool.false_ne_true]
          exact (Lines.get_eq_of_drop_eq
            (Lines.drop_insertIdx _ method.start _).symm
            0).trans (Lines.get_set_self hStart _)

/-
  After its renaming a method that was declared under the old
  name is declared under the new one exactly if the template
  of the rule lets the name be replaced.
-/
theorem declaredName?_renameDeclaration_iff
    {fallback : Text}
    (hNe : rule.oldName ≠ rule.newName)
    (hMethod : .ok method ∈ locate rule fallback lines)
    (hOld :
      rule.declaredName? (Lines.get lines method.start) =
        some rule.oldName) :
    let after := method.renameDeclaration rule lines
    rule.declaredName?
          (Lines.get after.1
            (method.start + after.2.markerInserted.toNat)) =
        some rule.newName ↔
      rule.Replaceable := by
  intro after
  have hSpans :=
    Spans.of_located (located_of_mem_locate hMethod)
  have hStart :=
    hSpans.lt.trans (Block.close?_lt_length hSpans.closes)
  rw [show Lines.get after.1 _ = _ from
    get_renameDeclaration hStart]
  exact rule.declaredName?_renamed_iff hNe hOld

/- With the built-in rule the new name is declared. -/
theorem declaredName?_renameDeclaration_standard :
    let rule := Rule.standard
    let lines : Lines :=
      ["  void _generateQuestion() \x7b".toList,
        "    a();".toList,
        "  \x7d".toList]
    let method : Method :=
      { name := "_generateQuestion".toList
        start := 0
        stop := 2
        indent := "  ".toList
        unit := "  ".toList }
    let after := method.renameDeclaration rule lines
    rule.oldName ≠ rule.newName ∧
      .ok method ∈ locate rule "  ".toList lines ∧
      rule.declaredName? (Lines.get lines method.start) =
        some rule.oldName ∧
      rule.declaredName?
          (Lines.get after.1
            (method.start + after.2.markerInserted.toNat)) =
        some rule.newName := by
  intro rule lines method after
  have hNe : rule.oldName ≠ rule.newName := by
    decide
  have hMethod : .ok method ∈
      locate rule "  ".toList lines := by
    decide +kernel
  have hOld :
      rule.declaredName? (Lines.get lines method.start) =
        some rule.oldName := by
    decide +kernel
  exact ⟨hNe, hMethod, hOld,
    (declaredName?_renameDeclaration_iff hNe hMethod
      hOld).mpr Rule.plain_standard.clear.replaceable⟩

/-
  A template in which the name is the end of an identifier:
  the line is found under the old name, gets its marker, and
  keeps the name that it has.
-/
theorem declaredName?_renameDeclaration_ne :
    let spec : RuleSpec :=
      { oldName := "Question".toList
        newName := "Round".toList
        declaration :=
          some "void _generate\x7bname\x7d()".toList }
    let lines : Lines :=
      ["void _generateQuestion() \x7b".toList,
        "  a();".toList,
        "\x7d".toList]
    let method : Method :=
      { name := "Question".toList
        start := 0
        stop := 2
        indent := []
        unit := "  ".toList }
    ∃ rule, spec.check = .ok rule ∧
      rule.oldName ≠ rule.newName ∧
      .ok method ∈ locate rule "  ".toList lines ∧
      rule.declaredName? (Lines.get lines method.start) =
        some rule.oldName ∧
      method.renameDeclaration rule lines =
        ("@override".toList :: lines,
          { renamed := false, markerInserted := true }) ∧
      rule.declaredName?
          (Lines.get ("@override".toList :: lines)
            (method.start + 1)) ≠
        some rule.newName := by
  intro spec lines method
  let rule : Rule :=
    { Rule.standard with
      oldName := "Question".toList
      newName := "Round".toList
      declaration := "void _generate\x7bname\x7d()".toList
      template :=
        { before := "void _generate".toList
          after := "()".toList }
      oldName_isName := by decide
      newName_isName := by decide
      declaration_trim := by decide
      declaration_ofText? := by decide }
  refine ⟨rule, rfl, by decide, ?_, ?_, ?_, ?_⟩
  · decide +kernel
  · decide +kernel
  · decide +kernel
  · decide +kernel

end Method

end NotifyScope
