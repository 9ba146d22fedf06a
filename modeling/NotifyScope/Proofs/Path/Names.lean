import Mathlib.Data.List.Infix
import NotifyScope.Path

/-
  The names that a path is made of.  Segments that say nothing
  are left out, so that paths that are spelled differently can
  have the same names.  The names of a path inside of another
  one are those of both, and each path above a path has one
  name less, until none is left.

  Key definitions include:
    * `Path.Speaks`
    * `Path.names`

  Main declarations:
    * `Path.segments_join`
    * `Path.names_join`
    * `Path.names_of_parent?`
    * `Path.findSome?_ancestors`
-/

namespace NotifyScope

------------------------------------------------------------
-- Parts of Texts
------------------------------------------------------------

namespace Text

variable {separator : Char}

theorem splitOn_eq
    (separator : Char)
    (text : Text) :
    splitOn separator text = List.splitOn separator text := by
  induction text with
  | nil => rfl
  | cons c text ih =>
      have hStep :
          splitOn separator (c :: text) =
            if c = separator then
              [] :: splitOn separator text
            else
              (c :: (splitOn separator text).headD []) ::
                (splitOn separator text).tail := rfl
      rw [hStep, ih, List.splitOn_cons_eq_if_modifyHead]
      simp only [beq_iff_eq]
      obtain ⟨first, rest, hParts⟩ :=
        List.exists_cons_of_ne_nil
          (List.splitOn_ne_nil separator text)
      rw [hParts]
      rfl

theorem splitOn_append_cons
    (left right : Text) :
    splitOn separator (left ++ separator :: right) =
      splitOn separator left ++ splitOn separator right := by
  simp only [splitOn_eq]
  exact List.splitOn_append_cons_self left right

theorem splitOn_of_not_mem
    {text : Text}
    (hText : separator ∉ text) :
    splitOn separator text = [text] := by
  rw [splitOn_eq]
  exact List.splitOn_eq_singleton hText

theorem intercalate_splitOn
    (text : Text) :
    List.intercalate [separator] (splitOn separator text) =
      text := by
  rw [splitOn_eq]
  exact List.intercalate_splitOn separator

theorem splitOn_intercalate
    {parts : List Text}
    (hParts : ∀ part ∈ parts, separator ∉ part)
    (hNe : parts ≠ []) :
    splitOn separator (List.intercalate [separator] parts) =
      parts := by
  rw [splitOn_eq]
  exact List.splitOn_intercalate separator hParts hNe

theorem not_mem_of_mem_splitOn
    {text part : Text}
    (hPart : part ∈ splitOn separator text) :
    separator ∉ part := by
  induction text generalizing part with
  | nil =>
      cases List.mem_singleton.mp hPart
      exact List.not_mem_nil
  | cons c text ih =>
      rw [splitOn_eq, List.splitOn_cons_eq_if_modifyHead,
        ← splitOn_eq] at hPart
      obtain ⟨first, rest, hParts⟩ :=
        List.exists_cons_of_ne_nil
          (splitOn_eq separator text ▸
            List.splitOn_ne_nil separator text)
      rw [hParts] at hPart ih
      split at hPart
      · rcases List.mem_cons.mp hPart with rfl | hPart
        · exact List.not_mem_nil
        · exact ih hPart
      · rename_i hChar
        rw [beq_iff_eq] at hChar
        rw [List.modifyHead_cons] at hPart
        rcases List.mem_cons.mp hPart with rfl | hPart
        · rw [List.mem_cons, not_or]
          exact ⟨Ne.symm hChar, ih List.mem_cons_self⟩
        · exact ih (List.mem_cons_of_mem _ hPart)

theorem exists_part_of_mem
    {c : Char}
    {text : Text}
    (hNe : c ≠ separator)
    (hMem : c ∈ text) :
    ∃ part ∈ splitOn separator text, c ∈ part := by
  induction text with
  | nil => cases hMem
  | cons first text ih =>
      obtain ⟨part, parts, hParts⟩ :=
        List.exists_cons_of_ne_nil
          (splitOn_eq separator text ▸
            List.splitOn_ne_nil separator text)
      rw [splitOn_eq, List.splitOn_cons_eq_if_modifyHead,
        ← splitOn_eq, hParts, List.modifyHead_cons]
      rw [hParts] at ih
      split
      · rename_i hFirst
        rw [beq_iff_eq] at hFirst
        have hRest : c ∈ text :=
          (List.mem_cons.mp hMem).resolve_left (hFirst ▸ hNe)
        obtain ⟨other, hOther, hInside⟩ := ih hRest
        exact ⟨other, List.mem_cons_of_mem _ hOther, hInside⟩
      · rcases List.mem_cons.mp hMem with rfl | hMem
        · exact ⟨_, List.mem_cons_self, List.mem_cons_self⟩
        · obtain ⟨other, hOther, hInside⟩ := ih hMem
          rcases List.mem_cons.mp hOther with rfl | hOther
          · exact ⟨_, List.mem_cons_self,
              List.mem_cons_of_mem _ hInside⟩
          · exact ⟨other, List.mem_cons_of_mem _ hOther,
              hInside⟩

/- Parts on both sides of a separator. -/
theorem intercalate_append
    {left right : List Text}
    (hLeft : left ≠ [])
    (hRight : right ≠ []) :
    List.intercalate [separator] (left ++ right) =
      List.intercalate [separator] left ++
        separator :: List.intercalate [separator] right := by
  induction left with
  | nil => exact absurd rfl hLeft
  | cons first left ih =>
      cases left with
      | nil =>
          rw [List.singleton_append,
            List.intercalate_cons_of_ne_nil hRight,
            List.intercalate_singleton, List.append_assoc]
          rfl
      | cons second left =>
          rw [List.cons_append,
            List.intercalate_cons_of_ne_nil (by simp),
            ih (by simp), List.intercalate_cons_cons]
          simp only [List.append_assoc]

end Text

namespace Path

variable {base path above : Path}
variable {absolute : Bool}

------------------------------------------------------------
-- Names
------------------------------------------------------------

/- Whether a segment leads away from where it stands. -/
def Speaks
    (segment : Text) : Prop :=
  segment ≠ [] ∧ segment ≠ here

instance : DecidablePred Speaks := fun segment =>
  inferInstanceAs (Decidable (segment ≠ [] ∧ segment ≠ here))

theorem not_speaks_iff
    {segment : Text} :
    ¬Speaks segment ↔ segment = [] ∨ segment = here := by
  unfold Speaks
  rw [not_and_or, not_ne_iff, not_ne_iff]

/- The segments of a path that lead somewhere. -/
def names
    (path : Path) : List Text :=
  (Path.segments path).filter Speaks

/- The text of a path behind its root. -/
def body
    (path : Path) : Text :=
  if isAbsolute path then path.tail else path

theorem segments_eq
    (path : Path) :
    Path.segments path = Text.splitOn '/' (body path) := rfl

theorem eq_of_isAbsolute
    (hAbsolute : isAbsolute path = true) :
    path = '/' :: body path := by
  unfold body
  rw [if_pos hAbsolute]
  cases path with
  | nil => cases hAbsolute
  | cons c path =>
      have hChar : c = '/' := by
        simpa [isAbsolute] using hAbsolute
      rw [hChar]
      rfl

theorem body_of_relative
    (hRelative : isAbsolute path = false) :
    body path = path := by
  unfold body
  rw [hRelative]
  rfl

@[simp] theorem body_cons_slash
    (text : Text) :
    body ('/' :: text) = text := rfl

theorem exists_segment_of_mem
    {c : Char}
    (hNe : c ≠ '/')
    (hMem : c ∈ path) :
    ∃ segment ∈ Path.segments path, c ∈ segment := by
  have hBody : c ∈ body path := by
    cases hAbsolute : isAbsolute path with
    | true =>
        rw [eq_of_isAbsolute hAbsolute] at hMem
        exact (List.mem_cons.mp hMem).resolve_left hNe
    | false => rwa [body_of_relative hAbsolute]
  exact Text.exists_part_of_mem hNe hBody

/- The root of a path, if it has one, and what follows. -/
theorem root_append_body
    (path : Path) :
    (if isAbsolute path then '/' :: body path else body path) =
      path := by
  split
  · rename_i hAbsolute
    exact (eq_of_isAbsolute hAbsolute).symm
  · rename_i hRelative
    exact body_of_relative (by simpa using hRelative)

------------------------------------------------------------
-- Paths inside of Paths
------------------------------------------------------------

theorem isAbsolute_append
    (hBase : base ≠ [])
    (text : Text) :
    isAbsolute (base ++ text) = isAbsolute base := by
  cases base with
  | nil => exact absurd rfl hBase
  | cons c base => rfl

theorem body_append
    (hBase : base ≠ [])
    (text : Text) :
    body (base ++ text) = body base ++ text := by
  cases base with
  | nil => exact absurd rfl hBase
  | cons c base =>
      unfold body
      rw [isAbsolute_append hBase]
      split <;> rfl

/- Where a relative path inside of another one starts. -/
theorem join_cases
    (base : Path)
    (hRelative : isAbsolute path = false) :
    base = [] ∧ join base path = path ∨
      (∃ front, base = front ++ ['/'] ∧
        join base path = front ++ '/' :: path) ∨
      base ≠ [] ∧ join base path = base ++ '/' :: path := by
  unfold join
  by_cases hBase : base = []
  · left
    simp [hBase]
  · rw [if_neg (by simp [hRelative, hBase])]
    split
    · rename_i hLast
      obtain ⟨front, rfl⟩ :=
        List.getLast?_eq_some_iff.mp hLast
      exact .inr (.inl ⟨front, rfl, by simp⟩)
    · exact .inr (.inr ⟨hBase, rfl⟩)

theorem isAbsolute_join
    (hRelative : isAbsolute path = false) :
    isAbsolute (join base path) = isAbsolute base := by
  rcases join_cases base hRelative with
    ⟨rfl, hJoin⟩ | ⟨front, rfl, hJoin⟩ | ⟨hBase, hJoin⟩
  · rw [hJoin, hRelative]
    rfl
  · rw [hJoin]
    cases front <;> rfl
  · rw [hJoin, isAbsolute_append hBase]

/-
  The segments of a path inside of another one are those of
  both, up to an empty one behind a last separator.
-/
theorem segments_join_cases
    (base : Path)
    (hRelative : isAbsolute path = false) :
    ∃ front,
      Path.segments (join base path) =
          front ++ Path.segments path ∧
        (Path.segments base = front ∨
          Path.segments base = front ++ [[]]) := by
  have hPath : Path.segments path = Text.splitOn '/' path := by
    rw [segments_eq, body_of_relative hRelative]
  rcases join_cases base hRelative with
    ⟨rfl, hJoin⟩ | ⟨front, rfl, hJoin⟩ | ⟨hBase, hJoin⟩
  · exact ⟨[], by rw [hJoin]; rfl, .inr rfl⟩
  · rw [hJoin, hPath]
    by_cases hFront : front = []
    · subst hFront
      exact ⟨[], rfl, .inr rfl⟩
    · refine ⟨Text.splitOn '/' (body front), ?_, .inr ?_⟩
      · rw [segments_eq, body_append hFront,
          Text.splitOn_append_cons]
      · rw [segments_eq, body_append hFront,
          Text.splitOn_append_cons]
        rfl
  · refine ⟨Path.segments base, ?_, .inl rfl⟩
    rw [hJoin, hPath, segments_eq, segments_eq,
      body_append hBase, Text.splitOn_append_cons]

/- What stands in front of them has the names of the base. -/
theorem segments_join
    (base : Path)
    (hRelative : isAbsolute path = false) :
    ∃ front,
      Path.segments (join base path) =
          front ++ Path.segments path ∧
        front.filter Speaks = names base ∧
        ∀ segment ∈ front, segment ∈ Path.segments base := by
  obtain ⟨front, hJoin, hBase⟩ :=
    segments_join_cases base hRelative
  refine ⟨front, hJoin, ?_⟩
  unfold names
  rcases hBase with hBase | hBase
  · rw [hBase]
    exact ⟨rfl, fun _ hMem => hMem⟩
  · rw [hBase]
    exact ⟨by simp [Speaks],
      fun _ hMem => List.mem_append_left _ hMem⟩

theorem names_join
    (base : Path)
    (hRelative : isAbsolute path = false) :
    names (join base path) = names base ++ names path := by
  obtain ⟨front, hJoin, hFront, -⟩ :=
    segments_join base hRelative
  conv_lhs => unfold names
  rw [hJoin, List.filter_append, hFront]
  rfl

theorem mem_segments_join
    {segment : Text}
    (hRelative : isAbsolute path = false)
    (hMem : segment ∈ Path.segments (join base path)) :
    segment ∈ Path.segments base ∨
      segment ∈ Path.segments path := by
  obtain ⟨front, hJoin, -, hFront⟩ :=
    segments_join base hRelative
  rw [hJoin, List.mem_append] at hMem
  exact hMem.imp_left (hFront segment)

/- What is appended to a path goes to its last segment. -/
theorem segments_append
    {text : Text}
    (hPath : path ≠ [])
    (hText : '/' ∉ text) :
    ∃ front last,
      Path.segments path = front ++ [last] ∧
        Path.segments (path ++ text) =
          front ++ [last ++ text] := by
  have hNe : Path.segments path ≠ [] := by
    rw [segments_eq, Text.splitOn_eq]
    exact List.splitOn_ne_nil _ _
  obtain ⟨front, last, hSegments⟩ :=
    (List.eq_nil_or_concat
      (Path.segments path)).resolve_left hNe
  rw [List.concat_eq_append] at hSegments
  have hParts :
      ∀ part ∈ front ++ [last], '/' ∉ part := by
    rw [← hSegments]
    exact fun part hPart => Text.not_mem_of_mem_splitOn hPart
  refine ⟨front, last, hSegments, ?_⟩
  have hBody :
      body path ++ text =
        List.intercalate ['/'] (front ++ [last ++ text]) := by
    rw [← Text.intercalate_splitOn (body path),
      ← segments_eq, hSegments]
    by_cases hFront : front = []
    · simp [hFront]
    · rw [Text.intercalate_append hFront (by simp),
        Text.intercalate_append hFront (by simp)]
      simp
  rw [segments_eq, body_append hPath, hBody]
  refine
    Text.splitOn_intercalate (fun part hPart => ?_) (by simp)
  rw [List.mem_append, List.mem_singleton] at hPart
  rcases hPart with hPart | rfl
  · exact hParts part (List.mem_append_left _ hPart)
  · rw [List.mem_append, not_or]
    exact ⟨hParts last (by simp), hText⟩

------------------------------------------------------------
-- Paths above Paths
------------------------------------------------------------

/-
  The segments that are dropped say nothing, and the one that
  is left in front says something.
-/
theorem exists_silent_of_dropTrivial
    (absolute : Bool)
    (segments : List Text) :
    ∃ silent,
      segments = silent ++ dropTrivial absolute segments ∧
        ∀ segment ∈ silent, ¬Speaks segment := by
  induction segments with
  | nil => exact ⟨[], rfl, by simp⟩
  | cons segment rest ih =>
      unfold dropTrivial
      split
      · rename_i hTrivial
        obtain ⟨silent, hRest, hSilent⟩ := ih
        refine ⟨segment :: silent, ?_, ?_⟩
        · rw [List.cons_append, ← hRest]
        · intro other hOther
          rcases List.mem_cons.mp hOther with rfl | hOther
          · rintro ⟨hNe, hHere⟩
            simp [isTrivial, hNe, hHere] at hTrivial
          · exact hSilent other hOther
      · exact ⟨[], rfl, by simp⟩

theorem not_isTrivial_of_dropTrivial
    {segment : Text}
    {segments rest : List Text}
    (hDrop :
      dropTrivial absolute segments = segment :: rest) :
    isTrivial absolute rest.length segment = false := by
  induction segments with
  | nil => cases hDrop
  | cons first others ih =>
      unfold dropTrivial at hDrop
      split at hDrop
      · exact ih hDrop
      · rename_i hTrivial
        cases hDrop
        simpa using hTrivial

/- Only a dot at the start of a path is dropped on its own. -/
theorem eq_nil_of_not_speaks
    {segment : Text}
    {rest : List Text}
    (hSays : isTrivial absolute rest.length segment = false)
    (hSilent : ¬Speaks segment) :
    rest = [] := by
  by_contra hNe
  apply hSilent
  constructor
  · rintro rfl
    simp [isTrivial] at hSays
  · rintro rfl
    simp [isTrivial, hNe] at hSays

theorem filter_speaks_of_silent
    {silent : List Text}
    (hSilent : ∀ segment ∈ silent, ¬Speaks segment) :
    silent.filter Speaks = [] :=
  List.filter_eq_nil_iff.mpr (by simpa using hSilent)

/- A path with nothing above it has no names. -/
theorem names_of_parent?_eq_none
    (hParent : parent? path = none) :
    names path = [] := by
  obtain ⟨silent, hSegments, hSilent⟩ :=
    exists_silent_of_dropTrivial (isAbsolute path)
      (Path.segments path).reverse
  unfold parent? at hParent
  dsimp only at hParent
  split at hParent
  · rename_i hDrop
    rw [hDrop, List.append_nil] at hSegments
    unfold names
    rw [← List.reverse_eq_nil_iff, ← List.filter_reverse,
      hSegments]
    exact filter_speaks_of_silent hSilent
  · cases hParent

/-
  What is above a path: some of its segments are kept, and
  what is dropped has its last name, if it has one at all.
-/
theorem exists_kept_of_parent?
    (hParent : parent? path = some above) :
    ∃ kept dropped,
      Path.segments path = kept ++ dropped ∧
        (∃ segment ∈ dropped, segment ≠ []) ∧
        kept.filter Speaks = (names path).dropLast ∧
        above =
          if isAbsolute path then
            '/' :: List.intercalate ['/'] kept
          else
            List.intercalate ['/'] kept := by
  obtain ⟨silent, hSegments, hSilent⟩ :=
    exists_silent_of_dropTrivial (isAbsolute path)
      (Path.segments path).reverse
  unfold parent? at hParent
  dsimp only at hParent
  split at hParent
  · cases hParent
  · rename_i segment rest hDrop
    obtain ⟨silent', hRest, hSilent'⟩ :=
      exists_silent_of_dropTrivial (isAbsolute path) rest
    have hSays := not_isTrivial_of_dropTrivial hDrop
    generalize hKept :
      (dropTrivial (isAbsolute path) rest).reverse = kept
    rw [hKept] at hParent
    have hRest' : rest.reverse = kept ++ silent'.reverse := by
      rw [hRest, List.reverse_append, hKept]
    have hPath :
        Path.segments path =
          kept ++ (silent'.reverse ++ [segment] ++
            silent.reverse) := by
      rw [← List.reverse_reverse (Path.segments path),
        hSegments, hDrop]
      simp [hRest']
    refine ⟨kept, _, hPath, ⟨segment, by simp, ?_⟩, ?_,
      (Option.some.inj hParent).symm⟩
    · rintro rfl
      simp [isTrivial] at hSays
    · have hNames :
          names path =
            kept.filter Speaks ++ [segment].filter Speaks := by
        have hFront : silent'.reverse.filter Speaks = [] :=
          filter_speaks_of_silent (by simpa using hSilent')
        have hBack : silent.reverse.filter Speaks = [] :=
          filter_speaks_of_silent (by simpa using hSilent)
        unfold names
        rw [hPath]
        simp only [List.filter_append, hFront, hBack,
          List.nil_append, List.append_nil]
      by_cases hSpeaks : Speaks segment
      · rw [hNames]
        simp [hSpeaks]
      · have hEmpty : kept = [] := by
          rw [← hKept, eq_nil_of_not_speaks hSays hSpeaks]
          rfl
        rw [hNames, hEmpty]
        simp [hSpeaks]

theorem segments_of_kept
    {kept dropped : List Text}
    (hPath : Path.segments path = kept ++ dropped)
    (hNe : kept ≠ []) :
    Text.splitOn '/' (List.intercalate ['/'] kept) = kept := by
  refine Text.splitOn_intercalate (fun part hPart => ?_) hNe
  have hMem : part ∈ Text.splitOn '/' (body path) := by
    rw [← segments_eq, hPath]
    exact List.mem_append_left _ hPart
  exact Text.not_mem_of_mem_splitOn hMem

/- What is above a path stands at the front of its text. -/
theorem exists_append_of_parent?
    (hParent : parent? path = some above) :
    ∃ rest, rest ≠ [] ∧ path = above ++ rest := by
  obtain ⟨kept, dropped, hPath, ⟨segment, hMem, hNe⟩, -,
    hAbove⟩ :=
    exists_kept_of_parent? hParent
  have hDropped : dropped ≠ [] := List.ne_nil_of_mem hMem
  have hBody :
      body path = List.intercalate ['/'] (kept ++ dropped) := by
    rw [← hPath, segments_eq, Text.intercalate_splitOn]
  have hRest :
      ∃ rest, rest ≠ [] ∧
        body path = List.intercalate ['/'] kept ++ rest := by
    by_cases hKept : kept = []
    · refine ⟨body path, ?_, by rw [hKept]; rfl⟩
      intro hEmpty
      rw [segments_eq, hEmpty, hKept, List.nil_append] at hPath
      rw [← hPath] at hMem
      exact hNe (List.mem_singleton.mp hMem)
    · rw [hBody, Text.intercalate_append hKept hDropped]
      exact ⟨_, List.cons_ne_nil _ _, rfl⟩
  obtain ⟨rest, hNe, hRest⟩ := hRest
  refine ⟨rest, hNe, ?_⟩
  rw [← root_append_body path, hRest, hAbove]
  split <;> rfl

theorem isAbsolute_of_parent?
    (hParent : parent? path = some above) :
    isAbsolute above = isAbsolute path := by
  obtain ⟨kept, dropped, -, -, -, hAbove⟩ :=
    exists_kept_of_parent? hParent
  cases hAbsolute : isAbsolute path with
  | true =>
      rw [hAbove, if_pos hAbsolute]
      rfl
  | false =>
      obtain ⟨rest, -, hPath⟩ :=
        exists_append_of_parent? hParent
      by_cases hEmpty : above = []
      · rw [hEmpty]
        rfl
      · rw [← hAbsolute, hPath, isAbsolute_append hEmpty]

theorem body_of_parent?
    {kept : List Text}
    (hParent : parent? path = some above)
    (hAbove :
      above =
        if isAbsolute path then
          '/' :: List.intercalate ['/'] kept
        else
          List.intercalate ['/'] kept) :
    body above = List.intercalate ['/'] kept := by
  have hSame := isAbsolute_of_parent? hParent
  cases hAbsolute : isAbsolute path with
  | true =>
      rw [hAbove, if_pos hAbsolute]
      rfl
  | false =>
      rw [hAbsolute] at hSame
      rw [body_of_relative hSame, hAbove, hAbsolute]
      rfl

/- A path has one name more than what is above it. -/
theorem names_of_parent?
    (hParent : parent? path = some above) :
    names above = (names path).dropLast := by
  obtain ⟨kept, dropped, hPath, -, hNames, hAbove⟩ :=
    exists_kept_of_parent? hParent
  unfold names at hNames ⊢
  rw [← hNames, segments_eq, body_of_parent? hParent hAbove]
  by_cases hKept : kept = []
  · rw [hKept]
    rfl
  · rw [segments_of_kept hPath hKept]

theorem mem_segments_of_parent?
    {segment : Text}
    (hParent : parent? path = some above)
    (hMem : segment ∈ Path.segments above) :
    segment = [] ∨ segment ∈ Path.segments path := by
  obtain ⟨kept, dropped, hPath, -, -, hAbove⟩ :=
    exists_kept_of_parent? hParent
  rw [segments_eq, body_of_parent? hParent hAbove] at hMem
  by_cases hKept : kept = []
  · rw [hKept] at hMem
    exact .inl (List.mem_singleton.mp hMem)
  · rw [segments_of_kept hPath hKept] at hMem
    rw [hPath]
    exact .inr (List.mem_append_left _ hMem)

------------------------------------------------------------
-- All Paths above a Path
------------------------------------------------------------

/-
  A property that holds of a path and passes from each path
  to the one above it holds of all of them.
-/
theorem all_ancestors_go
    {Fine : Path → Prop}
    (hStep : ∀ path above, parent? path = some above →
      Fine path → Fine above)
    (fuel : Nat)
    (hPath : Fine path) :
    ∀ above ∈ ancestors.go fuel path, Fine above := by
  induction fuel generalizing path with
  | zero =>
      intro above hAbove
      rwa [List.mem_singleton.mp hAbove]
  | succ fuel ih =>
      intro above hAbove
      unfold ancestors.go at hAbove
      split at hAbove
      · rwa [List.mem_singleton.mp hAbove]
      · rename_i next hParent
        rcases List.mem_cons.mp hAbove with rfl | hAbove
        · exact hPath
        · exact ih (hStep path next hParent hPath) above hAbove

theorem all_ancestors
    {Fine : Path → Prop}
    (hStep : ∀ path above, parent? path = some above →
      Fine path → Fine above)
    (hPath : Fine path) :
    ∀ above ∈ ancestors path, Fine above :=
  all_ancestors_go hStep path.length hPath

theorem reverse_inits_concat
    (front : List Text)
    (last : Text) :
    (front ++ [last]).inits.reverse =
      (front ++ [last]) :: front.inits.reverse := by
  simp [List.inits_append]

variable {α : Type}

theorem findSome?_go
    (look : List Text → Option α)
    {fuel : Nat}
    (hFuel : path.length ≤ fuel) :
    (ancestors.go fuel path).findSome? (look ∘ names) =
      (names path).inits.reverse.findSome? look := by
  induction fuel generalizing path with
  | zero =>
      cases List.length_eq_zero_iff.mp (Nat.le_zero.mp hFuel)
      rfl
  | succ fuel ih =>
      unfold ancestors.go
      split
      · rename_i hParent
        simp [names_of_parent?_eq_none hParent]
      · rename_i above hParent
        obtain ⟨rest, hNe, hPath⟩ :=
          exists_append_of_parent? hParent
        have hAbove : above.length ≤ fuel := by
          have hRest := List.length_pos_of_ne_nil hNe
          rw [hPath, List.length_append] at hFuel
          omega
        rw [List.findSome?_cons, ih hAbove,
          names_of_parent? hParent, Function.comp_apply]
        rcases List.eq_nil_or_concat (names path) with
          hNames | ⟨front, last, hNames⟩
        · -- The names run out before the segments do.
          rw [hNames]
          cases hLook : look [] with
          | none => simp [hLook]
          | some found => simp [hLook]
        · rw [hNames, List.concat_eq_append,
            List.dropLast_concat, reverse_inits_concat,
            List.findSome?_cons]

/-
  To look for something in a path and in what is above it is
  to look for it where its names lead to, then with one name
  less each time, until none is left.
-/
theorem findSome?_ancestors
    (look : List Text → Option α)
    (path : Path) :
    (ancestors path).findSome? (look ∘ names) =
      (names path).inits.reverse.findSome? look :=
  findSome?_go look le_rfl

end Path

end NotifyScope
