import NotifyScope.Proofs.Host.Files
import NotifyScope.Proofs.Path.Names

/-
  Disks that are trees: what is on them has proper names and
  stands in a directory.  On such a disk, a path to a file in
  a directory leads where its names say, however the path is
  spelled, and it leads there exactly if something is there.

  Key definitions include:
    * `Path.IsFileName`
    * `Disk.IsTree`
    * `Disk.there?`

  Main declarations:
    * `Disk.IsTree.get?_eq_directory`
    * `Disk.IsTree.follow_eq_ok`
    * `Disk.IsTree.there?_join`
    * `Disk.IsTree.resolve_append_ne`
-/

namespace NotifyScope

namespace Path

variable {base path : Path}

/- Whether a file or a directory can have the name. -/
structure IsFileName
    (name : Text) : Prop where
  ne_nil : name ≠ []
  ne_here : name ≠ here
  ne_above : name ≠ above
  slash : '/' ∉ name
  zero : Char.ofNat 0 ∉ name
  short : Disk.byteLength name ≤ 255

instance : DecidablePred IsFileName := fun name =>
  decidable_of_iff
    (name ≠ [] ∧ name ≠ here ∧ name ≠ above ∧ '/' ∉ name ∧
      Char.ofNat 0 ∉ name ∧ Disk.byteLength name ≤ 255)
    ⟨fun ⟨a, b, c, d, e, f⟩ => ⟨a, b, c, d, e, f⟩,
      fun ⟨a, b, c, d, e, f⟩ => ⟨a, b, c, d, e, f⟩⟩

namespace IsFileName

variable {name : Text}

theorem speaks
    (hName : IsFileName name) :
    Speaks name :=
  ⟨hName.ne_nil, hName.ne_here⟩

theorem isAbsolute_eq
    (hName : IsFileName name) :
    isAbsolute name = false := by
  cases name with
  | nil => rfl
  | cons c name =>
      have hSlash := hName.slash
      rw [List.mem_cons, not_or] at hSlash
      simpa [isAbsolute] using Ne.symm hSlash.1

theorem segments_eq
    (hName : IsFileName name) :
    Path.segments name = [name] := by
  rw [Path.segments_eq, body_of_relative hName.isAbsolute_eq]
  exact Text.splitOn_of_not_mem hName.slash

theorem names_eq
    (hName : IsFileName name) :
    names name = [name] := by
  unfold names
  rw [hName.segments_eq]
  simp [hName.speaks]

end IsFileName

/- The path of a location is made of its names. -/
theorem names_path
    {location : Location}
    (hNames : ∀ name ∈ location, IsFileName name) :
    names location.path = location := by
  unfold names
  rw [Path.segments_eq]
  unfold Location.path
  rw [body_cons_slash]
  by_cases hRoot : location = []
  · rw [hRoot]
    rfl
  · rw [Text.splitOn_intercalate
      (fun name hName => (hNames name hName).slash) hRoot]
    exact List.filter_eq_self.mpr fun name hName => by
      simpa using (hNames name hName).speaks

end Path

namespace Disk

variable {disk : Disk}
variable {base location : Location}
variable {path : Path}

------------------------------------------------------------
-- Trees
------------------------------------------------------------

/-
  Whether all that is on a disk has proper names and stands
  in a directory.
-/
structure IsTree
    (disk : Disk) : Prop where
  named : ∀ entry ∈ disk.nodes, ∀ name ∈ entry.1,
    Path.IsFileName name
  held : ∀ entry ∈ disk.nodes,
    disk.get? entry.1.dropLast = some .directory

instance : DecidablePred IsTree := fun disk =>
  decidable_of_iff
    ((∀ entry ∈ disk.nodes, ∀ name ∈ entry.1,
        Path.IsFileName name) ∧
      ∀ entry ∈ disk.nodes,
        disk.get? entry.1.dropLast = some .directory)
    ⟨fun ⟨named, held⟩ => ⟨named, held⟩,
      fun ⟨named, held⟩ => ⟨named, held⟩⟩

/- What is not the root is listed on the disk. -/
theorem exists_entry_of_isSome
    (hThere : (disk.get? location).isSome)
    (hRoot : location ≠ []) :
    ∃ entry ∈ disk.nodes, entry.1 = location := by
  unfold get? at hThere
  rw [if_neg hRoot] at hThere
  obtain ⟨node, hNode⟩ := Option.isSome_iff_exists.mp hThere
  obtain ⟨front, back, hNodes, -⟩ :=
    List.lookup_eq_some_iff.mp hNode
  exact ⟨(location, node), by rw [hNodes]; simp, rfl⟩

namespace IsTree

theorem isFileName
    (hTree : disk.IsTree)
    (hThere : (disk.get? location).isSome) :
    ∀ name ∈ location, Path.IsFileName name := by
  intro name hName
  obtain ⟨entry, hEntry, rfl⟩ :=
    exists_entry_of_isSome hThere (List.ne_nil_of_mem hName)
  exact hTree.named entry hEntry name hName

/- What stands above something is a directory. -/
theorem get?_eq_directory
    (hTree : disk.IsTree)
    (front : Location)
    {back : Location}
    (hBack : back ≠ [])
    (hThere : (disk.get? (front ++ back)).isSome) :
    disk.get? front = some .directory := by
  induction back using List.reverseRecOn with
  | nil => exact absurd rfl hBack
  | append_singleton back last ih =>
      obtain ⟨entry, hEntry, hLocation⟩ :=
        exists_entry_of_isSome hThere (by simp)
      have hHeld := hTree.held entry hEntry
      rw [hLocation, ← List.append_assoc,
        List.dropLast_concat] at hHeld
      by_cases hEmpty : back = []
      · rwa [hEmpty, List.append_nil] at hHeld
      · exact ih hEmpty (by rw [hHeld]; rfl)

end IsTree

------------------------------------------------------------
-- Following Paths
------------------------------------------------------------

section Steps

variable {start : Location}
variable {segment : Text}
variable {segments rest : List Text}

theorem follow_cons_of_silent
    (hHere : disk.get? start = some .directory)
    (hSilent : ¬Path.Speaks segment) :
    disk.follow start (segment :: rest) =
      disk.follow start rest := by
  conv_lhs => unfold follow
  rw [hHere]
  exact if_pos (Path.not_speaks_iff.mp hSilent)

theorem follow_cons_of_isFileName
    (hHere : disk.get? start = some .directory)
    (hSegment : Path.IsFileName segment) :
    disk.follow start (segment :: rest) =
      disk.follow (start ++ [segment]) rest := by
  conv_lhs => unfold follow
  rw [hHere]
  dsimp only
  rw [if_neg (not_or.mpr hSegment.speaks),
    if_neg hSegment.ne_above,
    if_neg (Nat.not_lt.mpr hSegment.short)]

/- Without going up, a path leads where its names say. -/
theorem eq_of_follow
    (hAbove : Path.above ∉ segments)
    (hFollow : disk.follow start segments = .ok location) :
    location = start ++ segments.filter Path.Speaks := by
  induction segments generalizing start with
  | nil =>
      cases hFollow
      simp
  | cons segment rest ih =>
      rw [List.mem_cons, not_or] at hAbove
      unfold follow at hFollow
      split at hFollow
      · cases hFollow
      · cases hFollow
      · split at hFollow
        · rename_i hSilent
          have hSilent' := Path.not_speaks_iff.mpr hSilent
          rw [ih hAbove.2 hFollow,
            List.filter_cons_of_neg (by simpa using hSilent')]
        · rename_i hSilent
          have hSpeaks : Path.Speaks segment :=
            not_or.mp hSilent
          rw [if_neg (Ne.symm hAbove.1)] at hFollow
          split at hFollow
          · cases hFollow
          · rw [ih hAbove.2 hFollow, List.append_assoc,
              List.filter_cons_of_pos (by simpa using hSpeaks),
              List.singleton_append]

end Steps

/-
  If something is where the segments lead, then they can be
  followed.  By induction on the segments in front of the
  last one: what is passed on the way stands above it.
-/
theorem IsTree.follow_eq_ok
    (hTree : disk.IsTree)
    {name : Text}
    (hName : Path.IsFileName name)
    (start : Location)
    (front : List Text)
    (hThere :
      (disk.get?
        (start ++ front.filter Path.Speaks ++
          [name])).isSome) :
    disk.follow start (front ++ [name]) =
      .ok (start ++ front.filter Path.Speaks ++ [name]) := by
  induction front generalizing start with
  | nil =>
      rw [List.filter_nil, List.append_nil] at hThere ⊢
      have hHere :=
        hTree.get?_eq_directory start (by simp) hThere
      rw [List.nil_append,
        follow_cons_of_isFileName hHere hName]
      rfl
  | cons segment rest ih =>
      have hHere :=
        hTree.get?_eq_directory start (by simp)
          (List.append_assoc start _ _ ▸ hThere)
      rw [List.cons_append]
      by_cases hSpeaks : Path.Speaks segment
      · rw [List.filter_cons_of_pos (by simpa using hSpeaks)]
          at hThere ⊢
        have hSegment : Path.IsFileName segment :=
          hTree.isFileName hThere segment (by simp)
        rw [List.append_cons start segment] at hThere ⊢
        rw [follow_cons_of_isFileName hHere hSegment]
        exact ih (start ++ [segment]) hThere
      · rw [List.filter_cons_of_neg (by simpa using hSpeaks)]
          at hThere ⊢
        rw [follow_cons_of_silent hHere hSpeaks]
        exact ih start hThere

------------------------------------------------------------
-- Finding Files
------------------------------------------------------------

/- The location of what a path leads to. -/
def there?
    (disk : Disk)
    (base : Location)
    (path : Path) : Option Location :=
  (disk.find base path).toOption.map Prod.fst

/- A location, if something is there. -/
def taken?
    (disk : Disk)
    (location : Location) : Option Location :=
  if (disk.get? location).isSome then some location else none

theorem there?_of_resolve
    (hResolve : disk.resolve base path = .ok location) :
    disk.there? base path = disk.taken? location := by
  unfold there? taken? find
  rw [hResolve]
  dsimp only
  cases disk.get? location <;> rfl

theorem there?_eq_some_iff :
    disk.there? base path = some location ↔
      disk.resolve base path = .ok location ∧
        (disk.get? location).isSome := by
  cases hResolve : disk.resolve base path with
  | error error =>
      unfold there? find
      rw [hResolve]
      simp [Except.toOption]
  | ok found =>
      rw [there?_of_resolve hResolve, Except.ok.injEq]
      unfold taken?
      constructor
      · intro hTaken
        split at hTaken
        · rename_i hThere
          cases hTaken
          exact ⟨rfl, hThere⟩
        · cases hTaken
      · rintro ⟨rfl, hThere⟩
        exact if_pos hThere

theorem resolve_eq_follow
    (hNe : path ≠ [])
    (hZero : Char.ofNat 0 ∉ path)
    (hShort : byteLength path < 4096) :
    disk.resolve base path =
      disk.follow (if Path.isAbsolute path then [] else base)
        (Path.segments path) := by
  unfold resolve
  rw [if_neg hNe, if_neg (by simpa using hZero),
    if_neg (Nat.not_le.mpr hShort)]

/- What a path that is resolved is followed to. -/
theorem follow_of_resolve
    (hResolve : disk.resolve base path = .ok location) :
    disk.follow (if Path.isAbsolute path then [] else base)
        (Path.segments path) = .ok location := by
  unfold resolve at hResolve
  split at hResolve
  · cases hResolve
  · split at hResolve
    · cases hResolve
    · split at hResolve
      · cases hResolve
      · exact hResolve

end Disk

/- Where the names of a path lead, from a directory. -/
def Path.goal
    (base : Location)
    (path : Path) : Location :=
  (if isAbsolute path then [] else base) ++ names path

namespace Disk

variable {disk : Disk}
variable {path : Path}

/- A path with proper names only has no zero byte. -/
theorem zero_not_mem
    (hNames :
      ∀ name ∈ Path.names path, Path.IsFileName name) :
    Char.ofNat 0 ∉ path := by
  intro hZero
  obtain ⟨segment, hMem, hInside⟩ :=
    Path.exists_segment_of_mem (by decide) hZero
  have hSpeaks : Path.Speaks segment := by
    constructor
    · rintro rfl
      cases hInside
    · rintro rfl
      revert hInside
      decide
  refine (hNames segment ?_).zero hInside
  exact List.mem_filter.mpr ⟨hMem, by simpa using hSpeaks⟩

/-
  A name inside of a path leads where the names of the path
  say, if something is there, and else to nothing.
-/
theorem IsTree.there?_join
    (hTree : disk.IsTree)
    (base : Location)
    {name : Text}
    (hName : Path.IsFileName name)
    (hAbove : Path.above ∉ Path.segments path)
    (hShort : byteLength (Path.join path name) < 4096) :
    disk.there? base (Path.join path name) =
      disk.taken? (Path.goal base path ++ [name]) := by
  have hRelative := hName.isAbsolute_eq
  have hNames :
      Path.names (Path.join path name) =
        Path.names path ++ [name] := by
    rw [Path.names_join path hRelative, hName.names_eq]
  obtain ⟨front, hSegments, hFront, hSubset⟩ :=
    Path.segments_join path hRelative
  rw [hName.segments_eq] at hSegments
  unfold Path.goal
  rw [← hFront]
  generalize hStart :
    (if Path.isAbsolute path then [] else base) = start
  by_cases hThere :
      (disk.get?
        (start ++ front.filter Path.Speaks ++ [name])).isSome
  · -- It can be followed, since it leads to something.
    apply there?_of_resolve
    rw [resolve_eq_follow _ _ hShort,
      Path.isAbsolute_join hRelative, hStart, hSegments]
    · exact hTree.follow_eq_ok hName start front hThere
    · intro hEmpty
      rw [hEmpty] at hNames
      exact List.append_ne_nil_of_right_ne_nil _
        (List.cons_ne_nil name []) hNames.symm
    · apply zero_not_mem
      rw [hNames, ← hFront]
      intro other hOther
      refine hTree.isFileName hThere other ?_
      rw [List.append_assoc]
      exact List.mem_append_right _ hOther
  · -- It can only be followed to where its names lead.
    unfold taken?
    rw [if_neg hThere, Option.eq_none_iff_forall_ne_some]
    intro location hLocation
    obtain ⟨hResolve, hSome⟩ :=
      there?_eq_some_iff.mp hLocation
    have hFollow := follow_of_resolve hResolve
    rw [Path.isAbsolute_join hRelative, hStart, hSegments]
      at hFollow
    have hLevel : Path.above ∉ front ++ [name] := by
      rw [List.mem_append, not_or, List.mem_singleton]
      exact ⟨fun hMem => hAbove (hSubset _ hMem),
        Ne.symm hName.ne_above⟩
    rw [eq_of_follow hLevel hFollow, List.filter_append,
      ← List.append_assoc] at hSome
    apply hThere
    simpa [hName.speaks] using hSome

------------------------------------------------------------
-- Longer Names
------------------------------------------------------------

variable {base location target : Location}

theorem follow_append
    (start : Location)
    (front rest : List Text) :
    disk.follow start (front ++ rest) =
      (disk.follow start front).bind fun middle =>
        disk.follow middle rest := by
  induction front generalizing start with
  | nil => rfl
  | cons segment front ih =>
      rw [List.cons_append]
      simp only [follow, ih]
      cases disk.get? start with
      | none => rfl
      | some node =>
          cases node with
          | file content => rfl
          | directory =>
              dsimp only
              split_ifs <;> rfl

/- Of the last segment, only the last step depends. -/
theorem exists_of_follow_concat
    {start : Location}
    {front : List Text}
    {last : Text}
    (hFollow :
      disk.follow start (front ++ [last]) = .ok location) :
    ∃ middle, disk.get? middle = some .directory ∧
      ∀ other, disk.follow start (front ++ [other]) =
        disk.follow middle [other] := by
  rw [follow_append] at hFollow
  cases hMiddle : disk.follow start front with
  | error error =>
      rw [hMiddle] at hFollow
      cases hFollow
  | ok middle =>
      rw [hMiddle] at hFollow
      refine ⟨middle, ?_, fun other => ?_⟩
      · change
          disk.follow middle [last] = .ok location at hFollow
        unfold follow at hFollow
        split at hFollow
        · cases hFollow
        · cases hFollow
        · assumption
      · rw [follow_append, hMiddle]
        rfl

namespace IsTree

/- The last step to a file goes down. -/
theorem eq_of_follow_singleton
    (hTree : disk.IsTree)
    {middle : Location}
    {segment : Text}
    (hHere : disk.get? middle = some .directory)
    (hFile : disk.get? location ≠ some .directory)
    (hFollow : disk.follow middle [segment] = .ok location) :
    location = middle ++ [segment] := by
  by_cases hSpeaks : Path.Speaks segment
  · by_cases hAbove : segment = Path.above
    · -- What is above a directory is a directory.
      subst hAbove
      unfold follow at hFollow
      rw [hHere] at hFollow
      cases hFollow
      exfalso
      apply hFile
      rcases List.eq_nil_or_concat middle with
        rfl | ⟨front, last, rfl⟩
      · rfl
      · rw [List.concat_eq_append] at hHere ⊢
        rw [List.dropLast_concat]
        exact hTree.get?_eq_directory front
          (List.cons_ne_nil last []) (by rw [hHere]; rfl)
    · have hLevel : Path.above ∉ [segment] := by
        rw [List.mem_singleton]
        exact Ne.symm hAbove
      rw [eq_of_follow hLevel hFollow]
      simp [hSpeaks]
  · rw [follow_cons_of_silent hHere hSpeaks] at hFollow
    cases hFollow
    exact absurd hHere hFile

/- A longer name leads to another file. -/
theorem resolve_append_ne
    (hTree : disk.IsTree)
    {text : Text}
    (hNe : text ≠ [])
    (hText : '/' ∉ text)
    (hFile : disk.get? location ≠ some .directory)
    (hResolve : disk.resolve base path = .ok location) :
    disk.resolve base (path ++ text) ≠ .ok location := by
  intro hLonger
  have hPath : path ≠ [] := by
    rintro rfl
    cases hResolve
  obtain ⟨front, last, hShort, hLong⟩ :=
    Path.segments_append hPath hText
  have hFollow := follow_of_resolve hResolve
  have hFollow' := follow_of_resolve hLonger
  rw [hShort] at hFollow
  rw [hLong, Path.isAbsolute_append hPath] at hFollow'
  obtain ⟨middle, hHere, hSteps⟩ :=
    exists_of_follow_concat hFollow
  rw [hSteps] at hFollow hFollow'
  have hOne :=
    hTree.eq_of_follow_singleton hHere hFile hFollow
  have hOther :=
    hTree.eq_of_follow_singleton hHere hFile hFollow'
  have hSame : last = last ++ text := by
    simpa using hOne.symm.trans hOther
  exact hNe (List.self_eq_append_right.mp hSame)

end IsTree

end Disk

end NotifyScope
