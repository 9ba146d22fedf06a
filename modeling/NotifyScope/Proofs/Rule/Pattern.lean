import NotifyScope.Proofs.Rule.Grammar
import NotifyScope.Proofs.Rule.Standard

/-
  Declaration lines by a pattern with ordered choice.  The
  template of a rule is turned into a pattern, in which runs
  are taken as long as they can be, the old name is tried
  before the new one, and what was tried is taken back where
  the rest of the line does not follow.  The pattern captures
  what the search for a declaration finds, since a line can be
  read in one way only, whatever is tried first.

  Key definitions include:
    * `Pattern`
    * `Pattern.ways`
    * `Pattern.capture?`
    * `Rule.pattern`

  Main declarations:
    * `Pattern.matches_fragment`
    * `Rule.mem_ways_pattern`
    * `Rule.capture?_pattern`
    * `Rule.declaredName?_iff_isDeclaration`
-/

------------------------------------------------------------
-- Patterns
------------------------------------------------------------

namespace NotifyScope

/- Patterns of texts, with one part that is captured. -/
inductive Pattern where
  /- Nothing at all. -/
  | empty
  /- One character of a class. -/
  | one (inClass : Char → Bool)
  /- Characters of a class, as many as there can be. -/
  | many (inClass : Char → Bool)
  /- One pattern behind another. -/
  | seq (first second : Pattern)
  /- One pattern or, if that fails, another. -/
  | either (first second : Pattern)
  /- A pattern whose text is captured. -/
  | group (inner : Pattern)
  /- The end of the text. -/
  | finish

namespace Pattern

/-
  What can follow a run of characters of a class.  The
  longest run comes first.
-/
def restsOfMany
    (inClass : Char → Bool) :
    Text → List Text
  | [] => [[]]
  | c :: rest =>
      if inClass c then
        restsOfMany inClass rest ++ [c :: rest]
      else
        [c :: rest]

/-
  The ways in which a text can start with a pattern: what is
  captured, and the text behind it.  They are listed in the
  order in which they are tried.
-/
def ways :
    Pattern → Text → List (Option Text × Text)
  | .empty, text => [(none, text)]
  | .one _, [] => []
  | .one inClass, c :: rest =>
      if inClass c then [(none, rest)] else []
  | .many inClass, text =>
      (restsOfMany inClass text).map fun rest => (none, rest)
  | .seq first second, text =>
      (ways first text).flatMap fun (early, middle) =>
        (ways second middle).map fun (late, rest) =>
          (late.or early, rest)
  | .either first second, text =>
      ways first text ++ ways second text
  | .group inner, text =>
      (ways inner text).map fun (_, rest) =>
        (some (text.take (text.length - rest.length)), rest)
  | .finish, [] => [(none, [])]
  | .finish, _ :: _ => []

/- What the first way to match a text captures. -/
def capture?
    (pattern : Pattern)
    (text : Text) : Option Text :=
  (pattern.ways text).head?.bind Prod.fst

/- A text that stands for itself. -/
def literal : Text → Pattern
  | [] => .empty
  | c :: rest => .seq (.one (· == c)) (literal rest)

/-
  A part of a template.  Inside a run of white space, which
  may be any other one, its further characters do not count.
-/
def fragment
    (inGap : Bool) :
    Text → Pattern
  | [] => .empty
  | c :: rest =>
      if Text.isBlank c then
        if inGap then
          fragment true rest
        else
          .seq
            (.seq (.one Text.isBlank) (.many Text.isBlank))
            (fragment true rest)
      else
        .seq (.one (· == c)) (fragment false rest)

end Pattern

namespace Rule

open Pattern

/- Either name of a rule, the old one first. -/
def namePattern
    (rule : Rule) : Pattern :=
  if rule.oldName = rule.newName then
    literal rule.oldName
  else
    .either (literal rule.oldName) (literal rule.newName)

/- What follows the name in a declaration line. -/
def endPattern
    (rule : Rule) : Pattern :=
  .seq (fragment false rule.template.after)
    (.seq (.many Text.isBlank)
      (.seq (.one (· == '\x7b'))
        (.seq (.many Text.isBlank) .finish)))

/- The pattern of a declaration line. -/
def pattern
    (rule : Rule) : Pattern :=
  .seq (.many isIndent)
    (.seq (fragment false rule.template.before)
      (.seq (.group rule.namePattern) rule.endPattern))

end Rule

------------------------------------------------------------
-- What a Pattern Matches
------------------------------------------------------------

namespace Pattern

/-
  A pattern that captures nothing and matches some texts, in
  front of whatever follows them.
-/
def Matches
    (pattern : Pattern)
    (texts : Text → Prop) : Prop :=
  ∀ got text rest,
    (got, rest) ∈ pattern.ways text ↔
      got = none ∧
        ∃ matched, text = matched ++ rest ∧ texts matched

theorem matches_empty :
    Matches .empty (· = []) := by
  intro got text rest
  simp only [ways, List.mem_singleton, Prod.mk.injEq]
  constructor
  · rintro ⟨rfl, rfl⟩
    exact ⟨rfl, [], rfl, rfl⟩
  · rintro ⟨rfl, _, rfl, rfl⟩
    exact ⟨rfl, rfl⟩

theorem matches_one
    (inClass : Char → Bool) :
    Matches (.one inClass)
      fun text => ∃ c, inClass c = true ∧ text = [c] := by
  intro got text rest
  cases text with
  | nil => simp [ways]
  | cons d text =>
      simp only [ways]
      split
      · rename_i hClass
        rw [List.mem_singleton, Prod.mk.injEq]
        constructor
        · rintro ⟨rfl, rfl⟩
          exact ⟨rfl, [d], rfl, d, hClass, rfl⟩
        · rintro ⟨rfl, _, hText, c, _, rfl⟩
          cases hText
          exact ⟨rfl, rfl⟩
      · rename_i hClass
        constructor
        · intro hNone
          cases hNone
        · rintro ⟨_, _, hText, c, hOther, rfl⟩
          cases hText
          exact absurd hOther hClass

theorem mem_restsOfMany
    {inClass : Char → Bool}
    {text rest : Text} :
    rest ∈ restsOfMany inClass text ↔
      ∃ run, text = run ++ rest ∧
        ∀ c ∈ run, inClass c = true := by
  induction text with
  | nil => simp [restsOfMany]
  | cons d text ih =>
      rw [restsOfMany]
      split
      · rename_i hClass
        rw [List.mem_append, List.mem_singleton, ih]
        constructor
        · rintro (⟨run, rfl, hRun⟩ | rfl)
          · refine ⟨d :: run, rfl, ?_⟩
            intro c hc
            rcases List.mem_cons.mp hc with rfl | hLater
            · exact hClass
            · exact hRun c hLater
          · exact ⟨[], rfl, by simp⟩
        · rintro ⟨run, hText, hRun⟩
          cases run with
          | nil => exact .inr hText.symm
          | cons c run =>
              cases hText
              exact .inl ⟨run, rfl, fun e he =>
                hRun e (List.mem_cons_of_mem _ he)⟩
      · rename_i hClass
        rw [List.mem_singleton]
        constructor
        · rintro rfl
          exact ⟨[], rfl, by simp⟩
        · rintro ⟨run, hText, hRun⟩
          cases run with
          | nil => exact hText.symm
          | cons c run =>
              cases hText
              exact absurd (hRun d List.mem_cons_self) hClass

theorem matches_many
    (inClass : Char → Bool) :
    Matches (.many inClass)
      fun text => ∀ c ∈ text, inClass c = true := by
  intro got text rest
  simp only [ways, List.mem_map, Prod.mk.injEq,
    mem_restsOfMany]
  constructor
  · rintro ⟨_, hRun, rfl, rfl⟩
    exact ⟨rfl, hRun⟩
  · rintro ⟨rfl, hRun⟩
    exact ⟨rest, hRun, rfl, rfl⟩

/- What is behind a pattern matches the rest of the text. -/
theorem mem_ways_seq
    {first second : Pattern}
    {got : Option Text}
    {text rest : Text} :
    (got, rest) ∈ ways (.seq first second) text ↔
      ∃ early middle, (early, middle) ∈ first.ways text ∧
        ∃ late, (late, rest) ∈ second.ways middle ∧
          got = late.or early := by
  simp only [ways, List.mem_flatMap, List.mem_map,
    Prod.exists, Prod.mk.injEq]
  constructor
  · rintro ⟨early, middle, hFirst, late, _, hSecond, rfl,
      rfl⟩
    exact ⟨early, middle, hFirst, late, hSecond, rfl⟩
  · rintro ⟨early, middle, hFirst, late, hSecond, rfl⟩
    exact ⟨early, middle, hFirst, late, rest, hSecond, rfl,
      rfl⟩

/- A pattern that captures nothing only takes its text. -/
theorem Matches.mem_ways_seq
    {first : Pattern}
    {texts : Text → Prop}
    (hFirst : Matches first texts)
    {second : Pattern}
    {got : Option Text}
    {text rest : Text} :
    (got, rest) ∈ ways (.seq first second) text ↔
      ∃ matched middle, text = matched ++ middle ∧
        texts matched ∧
        (got, rest) ∈ second.ways middle := by
  rw [Pattern.mem_ways_seq]
  constructor
  · rintro ⟨early, middle, hWay, late, hSecond, rfl⟩
    rcases (hFirst early text middle).mp hWay with
      ⟨rfl, matched, hText, hMatched⟩
    rw [Option.or_none]
    exact ⟨matched, middle, hText, hMatched, hSecond⟩
  · rintro ⟨matched, middle, hText, hMatched, hSecond⟩
    exact ⟨none, middle,
      (hFirst none text middle).mpr
        ⟨rfl, matched, hText, hMatched⟩,
      got, hSecond, Option.or_none.symm⟩

theorem Matches.seq
    {first second : Pattern}
    {front back : Text → Prop}
    (hFirst : Matches first front)
    (hSecond : Matches second back) :
    Matches (.seq first second) fun text =>
      ∃ left right, text = left ++ right ∧
        front left ∧ back right := by
  intro got text rest
  rw [hFirst.mem_ways_seq]
  constructor
  · rintro ⟨left, middle, rfl, hLeft, hWay⟩
    rcases (hSecond got middle rest).mp hWay with
      ⟨rfl, right, rfl, hRight⟩
    exact ⟨rfl, left ++ right, by rw [List.append_assoc],
      left, right, rfl, hLeft, hRight⟩
  · rintro ⟨rfl, _, rfl, left, right, rfl, hLeft, hRight⟩
    exact ⟨left, right ++ rest, List.append_assoc _ _ _,
      hLeft,
      (hSecond none _ rest).mpr ⟨rfl, right, rfl, hRight⟩⟩

theorem Matches.either
    {first second : Pattern}
    {texts others : Text → Prop}
    (hFirst : Matches first texts)
    (hSecond : Matches second others) :
    Matches (.either first second) fun text =>
      texts text ∨ others text := by
  intro got text rest
  simp only [ways, List.mem_append, hFirst got text rest,
    hSecond got text rest]
  constructor
  · rintro (⟨rfl, matched, hText, hHere⟩ |
      ⟨rfl, matched, hText, hThere⟩)
    · exact ⟨rfl, matched, hText, .inl hHere⟩
    · exact ⟨rfl, matched, hText, .inr hThere⟩
  · rintro ⟨rfl, matched, hText, hHere | hThere⟩
    · exact .inl ⟨rfl, matched, hText, hHere⟩
    · exact .inr ⟨rfl, matched, hText, hThere⟩

/- A pattern that matches the same texts otherwise put. -/
theorem Matches.congr
    {pattern : Pattern}
    {texts others : Text → Prop}
    (hMatches : Matches pattern texts)
    (hSame : ∀ text, texts text ↔ others text) :
    Matches pattern others := by
  intro got text rest
  rw [hMatches got text rest]
  simp only [hSame]

/- The group captures what its pattern matches. -/
theorem Matches.mem_ways_group
    {inner : Pattern}
    {texts : Text → Prop}
    (hInner : Matches inner texts)
    {got : Option Text}
    {text rest : Text} :
    (got, rest) ∈ ways (.group inner) text ↔
      ∃ matched, got = some matched ∧
        text = matched ++ rest ∧ texts matched := by
  simp only [ways, List.mem_map, Prod.exists,
    Prod.mk.injEq]
  constructor
  · rintro ⟨early, _, hWay, rfl, rfl⟩
    rcases (hInner early text _).mp hWay with
      ⟨_, matched, rfl, hMatched⟩
    refine ⟨matched, ?_, rfl, hMatched⟩
    rw [List.length_append, Nat.add_sub_cancel,
      List.take_left]
  · rintro ⟨matched, rfl, rfl, hMatched⟩
    refine ⟨none, rest,
      (hInner none _ rest).mpr ⟨rfl, matched, rfl, hMatched⟩,
      ?_, rfl⟩
    rw [List.length_append, Nat.add_sub_cancel,
      List.take_left]

theorem mem_ways_finish
    {got : Option Text}
    {text rest : Text} :
    (got, rest) ∈ ways .finish text ↔
      got = none ∧ text = [] ∧ rest = [] := by
  cases text with
  | nil => simp [ways]
  | cons c text => simp [ways]

theorem matches_literal
    (text : Text) :
    Matches (literal text) (· = text) := by
  induction text with
  | nil => exact matches_empty
  | cons c text ih =>
      apply ((matches_one _).seq ih).congr
      intro other
      constructor
      · rintro ⟨_, _, rfl, ⟨d, hSame, rfl⟩, rfl⟩
        rw [eq_of_beq hSame]
        rfl
      · rintro rfl
        exact ⟨[c], text, rfl, ⟨c, by simp, rfl⟩, rfl⟩

------------------------------------------------------------
-- Parts of a Template
------------------------------------------------------------

theorem fragment_cons_of_not_isBlank
    (inGap : Bool)
    {c : Char}
    (part : Text)
    (hChar : Text.isBlank c = false) :
    fragment inGap (c :: part) =
      .seq (.one (· == c)) (fragment false part) := by
  rw [fragment, hChar, if_neg (by decide)]

/- The rest of a run of white space is passed over. -/
theorem fragment_run_append
    {run part : Text}
    (hRun : ∀ c ∈ run, Text.isBlank c = true)
    (hLongest : ∀ c ∈ part.head?, Text.isBlank c = false) :
    fragment true (run ++ part) = fragment false part := by
  induction run with
  | nil =>
      cases part with
      | nil => rfl
      | cons c part =>
          have hChar := hLongest c rfl
          rw [List.nil_append,
            fragment_cons_of_not_isBlank true part hChar,
            fragment_cons_of_not_isBlank false part hChar]
  | cons c run ih =>
      rw [List.cons_append, fragment,
        if_pos (hRun c List.mem_cons_self), if_pos rfl,
        ih fun d hd => hRun d (List.mem_cons_of_mem c hd)]

/- A run of white space is matched by any other one. -/
theorem matches_gap :
    Matches
      (.seq (.one Text.isBlank) (.many Text.isBlank))
      fun text => text ≠ [] ∧ Text.allBlank text = true := by
  apply ((matches_one _).seq (matches_many _)).congr
  intro text
  constructor
  · rintro ⟨_, right, rfl, ⟨c, hBlank, rfl⟩, hRight⟩
    refine ⟨List.cons_ne_nil c right, ?_⟩
    exact List.all_eq_true.mpr fun d hd =>
      (List.mem_cons.mp hd).elim
        (fun hEq => hEq ▸ hBlank) (hRight d)
  · rintro ⟨hNe, hAll⟩
    rcases List.exists_cons_of_ne_nil hNe with
      ⟨c, rest, rfl⟩
    have hBlank := List.all_eq_true.mp hAll
    exact ⟨[c], rest, rfl,
      ⟨c, hBlank c List.mem_cons_self, rfl⟩,
      fun d hd => hBlank d (List.mem_cons_of_mem c hd)⟩

/- A part is matched by the texts that stand for it. -/
theorem matches_fragment
    (part : Text) :
    Matches (fragment false part)
      (Template.Fits part) := by
  induction part using Text.run_induction Text.isBlank with
  | nil =>
      exact matches_empty.congr fun _ =>
        Template.fits_nil_iff.symm
  | other c part hChar ih =>
      rw [fragment_cons_of_not_isBlank false part hChar]
      apply ((matches_one _).seq ih).congr
      intro text
      rw [Template.fits_cons_iff hChar]
      constructor
      · rintro ⟨_, rest, rfl, ⟨d, hSame, rfl⟩, hRest⟩
        rw [eq_of_beq hSame]
        exact ⟨rest, rfl, hRest⟩
      · rintro ⟨rest, rfl, hRest⟩
        exact ⟨[c], rest, rfl, ⟨c, by simp, rfl⟩, hRest⟩
  | run run part hNe hRun hLongest ih =>
      rcases List.exists_cons_of_ne_nil hNe with
        ⟨c, tail, rfl⟩
      have hTail : ∀ d ∈ tail, Text.isBlank d = true :=
        fun d hd => hRun d (List.mem_cons_of_mem c hd)
      have hAll : Text.allBlank (c :: tail) = true :=
        List.all_eq_true.mpr hRun
      rw [List.cons_append, fragment,
        if_pos (hRun c List.mem_cons_self),
        if_neg Bool.false_ne_true,
        fragment_run_append hTail hLongest]
      apply (matches_gap.seq ih).congr
      intro text
      rw [← List.cons_append,
        Template.fits_run_append_iff ⟨hNe, hAll⟩ hLongest]

end Pattern

------------------------------------------------------------
-- Declaration Lines
------------------------------------------------------------

namespace Rule

open Pattern

variable {rule : Rule} {line : Line}

/- The group of the name matches either name. -/
theorem matches_namePattern
    (rule : Rule) :
    Matches rule.namePattern (· ∈ rule.names) := by
  unfold namePattern names
  split
  · rename_i hSame
    apply (matches_literal _).congr
    intro text
    simp [hSame]
  · apply ((matches_literal _).either
      (matches_literal _)).congr
    intro text
    simp

/- The end of a line is matched as a whole. -/
theorem mem_ways_endPattern
    {got : Option Text}
    {text last : Text} :
    (got, last) ∈ rule.endPattern.ways text ↔
      got = none ∧ last = [] ∧
        ∃ back space rest,
          text = back ++ (space ++ '\x7b' :: rest) ∧
            Template.Fits rule.template.after back ∧
            Text.allBlank space = true ∧
            Text.allBlank rest = true := by
  simp only [endPattern, (matches_fragment _).mem_ways_seq,
    (matches_many _).mem_ways_seq,
    (matches_one _).mem_ways_seq, mem_ways_finish]
  constructor
  · rintro ⟨back, _, rfl, hBack, space, _, rfl, hSpace, _, _,
      rfl, ⟨c, hBrace, rfl⟩, rest, _, rfl, hRest, rfl, rfl,
      rfl⟩
    rw [eq_of_beq hBrace, List.append_nil]
    exact ⟨rfl, rfl, back, space, rest, rfl, hBack,
      List.all_eq_true.mpr hSpace,
      List.all_eq_true.mpr hRest⟩
  · rintro ⟨rfl, rfl, back, space, rest, rfl, hBack, hSpace,
      hRest⟩
    exact ⟨back, _, rfl, hBack, space, _, rfl,
      List.all_eq_true.mp hSpace, ['\x7b'], rest, rfl,
      ⟨_, rfl, rfl⟩, rest, [], (List.append_nil rest).symm,
      List.all_eq_true.mp hRest, rfl, rfl, rfl⟩

/- A line is matched in the ways in which it declares names. -/
theorem mem_ways_pattern
    {got : Option Text}
    {last : Text} :
    (got, last) ∈ rule.pattern.ways line ↔
      last = [] ∧ ∃ name ∈ rule.names, got = some name ∧
        rule.IsDeclaration name line := by
  simp only [pattern, (matches_many _).mem_ways_seq,
    (matches_fragment _).mem_ways_seq, mem_ways_seq,
    (matches_namePattern rule).mem_ways_group,
    mem_ways_endPattern]
  constructor
  · rintro ⟨indent, _, rfl, hIndent, front, _, rfl, hFront,
      _, _, ⟨name, rfl, rfl, hName⟩, _, ⟨rfl, rfl, back,
      space, rest, rfl, hBack, hSpace, hRest⟩, rfl⟩
    exact ⟨rfl, name, hName, rfl, indent, front, back, space,
      rest, rfl, fun c hc => isIndent_iff.mp (hIndent c hc),
      hFront, hBack, hSpace, hRest⟩
  · rintro ⟨rfl, name, hName, rfl, indent, front, back,
      space, rest, rfl, hIndent, hFront, hBack, hSpace,
      hRest⟩
    exact ⟨indent, _, rfl,
      fun c hc => isIndent_iff.mpr (hIndent c hc), front, _,
      rfl, hFront, some name, _, ⟨name, rfl, rfl, hName⟩,
      none, ⟨rfl, rfl, back, space, rest, rfl, hBack, hSpace,
        hRest⟩, rfl⟩

/-
  The pattern captures what is found in a line.  All its ways
  to match the line capture the same name, so that it does not
  matter which of them is the first.
-/
theorem capture?_pattern
    (rule : Rule)
    (line : Line) :
    rule.pattern.capture? line =
      rule.declaredName? line := by
  unfold capture?
  cases hWays : rule.pattern.ways line with
  | nil =>
      cases hFound : rule.declaredName? line with
      | none => rfl
      | some name =>
          rcases isDeclaration_of_declaredName? hFound with
            ⟨hName, hLine⟩
          have hWay := mem_ways_pattern.mpr
            ⟨rfl, name, hName, rfl, hLine⟩
          rw [hWays] at hWay
          cases hWay
  | cons way more =>
      have hWay : (way.1, way.2) ∈ rule.pattern.ways line := by
        rw [hWays]
        exact List.mem_cons_self
      rcases mem_ways_pattern.mp hWay with
        ⟨_, name, hName, hGot, hLine⟩
      rw [List.head?_cons, Option.bind_some, hGot,
        declaredName?_eq_some_iff.mpr ⟨hName, hLine⟩]

/-
  A name is found in a line exactly if it is one of the two
  names of the rule and the line is the indented template
  with it filled in and an opening brace behind; this is what
  the pattern of the rule captures.  Where both names fit it
  is the old one.
-/
theorem declaredName?_iff_isDeclaration
    (rule : Rule)
    (line : Line) :
    rule.declaration =
        rule.template.before ++
          (Template.placeholder ++ rule.template.after) ∧
      rule.pattern.capture? line =
        rule.declaredName? line ∧
      (∀ name, rule.declaredName? line = some name ↔
        (name = rule.oldName ∨ name = rule.newName) ∧
          rule.IsDeclaration name line) ∧
      (rule.IsDeclaration rule.oldName line →
        rule.IsDeclaration rule.newName line →
        rule.declaredName? line = some rule.oldName) := by
  have hIff : ∀ name,
      rule.declaredName? line = some name ↔
        (name = rule.oldName ∨ name = rule.newName) ∧
          rule.IsDeclaration name line := by
    intro name
    rw [declaredName?_eq_some_iff]
    simp [names]
  refine ⟨rule.declaration_eq, rule.capture?_pattern line,
    hIff, ?_⟩
  intro hOld _
  exact (hIff rule.oldName).mpr ⟨.inl rfl, hOld⟩

/-
  A name that the other one starts with, in front of a suffix
  that the other one ends in: the first line declares the
  short name, the second one the long name.
-/
theorem declaredName?_iff_isDeclaration_prefix :
    let spec : RuleSpec :=
      { oldName := "get".toList
        newName := "getAll".toList
        declaration := some "\x7bname\x7dAll ()".toList }
    let short : Line := "\tgetAll  () \x7b".toList
    let long : Line := "getAllAll ()\x7b ".toList
    ∃ rule, spec.check = .ok rule ∧
      rule.pattern.capture? short = some "get".toList ∧
      rule.IsDeclaration "get".toList short ∧
      rule.pattern.capture? long = some "getAll".toList ∧
      rule.IsDeclaration "getAll".toList long := by
  intro spec short long
  let rule : Rule :=
    { Rule.standard with
      oldName := "get".toList
      newName := "getAll".toList
      declaration := "\x7bname\x7dAll ()".toList
      template :=
        { before := []
          after := "All ()".toList }
      oldName_isName := by decide
      newName_isName := by decide
      declaration_trim := by decide
      declaration_ofText? := by decide }
  have hShort :
      rule.declaredName? short = some "get".toList := by
    decide
  have hLong :
      rule.declaredName? long = some "getAll".toList := by
    decide
  rcases declaredName?_iff_isDeclaration rule short with
    ⟨_, hShortGot, hShortIff, _⟩
  rcases declaredName?_iff_isDeclaration rule long with
    ⟨_, hLongGot, hLongIff, _⟩
  exact ⟨rule, rfl, hShortGot.trans hShort,
    ((hShortIff _).mp hShort).2, hLongGot.trans hLong,
    ((hLongIff _).mp hLong).2⟩

end Rule

end NotifyScope
