import Mathlib.Data.List.Infix
import NotifyScope.Host.Memory
import NotifyScope.Proofs.Host.Tree
import NotifyScope.Settings.Locate

/-
  Which settings file is found from where.  From an absolute
  path, it is the nearest one in the directory or above it,
  else that of the user.  From a relative path, nothing above
  the current directory is looked at, so that a file there is
  missed.

  Key definitions include:
    * `SettingsSearch.found`
    * `SettingsSearch.nearestWithin?`
    * `SettingsSearch.nearest?`
    * `SettingsSearch.homeFile?`

  Main declarations:
    * `SettingsSearch.found_eq`
    * `SettingsSearch.found_join_and_eq_iff`
    * `SettingsSearch.found_ne_found_join`
-/

namespace NotifyScope

------------------------------------------------------------
-- Lengths
------------------------------------------------------------

namespace Path

variable {name : Path}

theorem byteLength_append
    (left right : Text) :
    Disk.byteLength (left ++ right) =
      Disk.byteLength left + Disk.byteLength right := by
  unfold Disk.byteLength Utf8.encode
  rw [List.flatMap_append, List.length_append]

theorem byteLength_pos
    {text : Text}
    (hNe : text ≠ []) :
    0 < Disk.byteLength text := by
  cases text with
  | nil => exact absurd rfl hNe
  | cons c text =>
      rw [← List.singleton_append, byteLength_append]
      have hChar : 0 < Disk.byteLength [c] := by
        unfold Disk.byteLength Utf8.encode
        simp [String.length_utf8EncodeChar, Char.utf8Size_pos]
      omega

/- The separator may be there already, or not needed. -/
theorem byteLength_join
    (path : Path)
    (hName : isAbsolute name = false) :
    Disk.byteLength path + Disk.byteLength name ≤
        Disk.byteLength (join path name) ∧
      Disk.byteLength (join path name) ≤
        Disk.byteLength path + Disk.byteLength name + 1 := by
  have hSlash (text : Text) :
      Disk.byteLength ('/' :: text) =
        Disk.byteLength text + 1 := by
    rw [← List.singleton_append, byteLength_append]
    exact Nat.add_comm _ _
  rcases join_cases path hName with
    ⟨rfl, hJoin⟩ | ⟨front, rfl, hJoin⟩ | ⟨-, hJoin⟩
  · rw [hJoin]
    exact ⟨le_of_eq (Nat.zero_add _), by omega⟩
  · rw [hJoin, byteLength_append, byteLength_append, hSlash,
      hSlash]
    simp only [Disk.byteLength, Utf8.encode,
      List.flatMap_nil, List.length_nil]
    omega
  · rw [hJoin, byteLength_append, hSlash]
    omega

end Path

/- One program goes on where the one before it stops. -/
theorem InMemory.run_bind
    {α β : Type}
    (first : InMemory α)
    (next : α → InMemory β)
    (world : World) :
    (first >>= next).run world =
      (next (first.run world).1).run (first.run world).2 :=
  rfl

namespace SettingsSearch

variable {world : World}
variable {disk : Disk}
variable {start : Path}

------------------------------------------------------------
-- Settings Files
------------------------------------------------------------

/- The file that is found from somewhere, if there is one. -/
def found
    (world : World)
    (start : Path) : Option Location :=
  ((find? start : InMemory (Option Path)).run world).1.bind
    (world.disk.there? world.directory)

/- The first settings file of those in a directory. -/
def inDirectory?
    (disk : Disk)
    (directory : Location) : Option Location :=
  names.findSome? fun name =>
    disk.taken? (directory ++ [name])

/-
  The settings file in the deepest directory that has one, of
  those between a directory and one inside of it.
-/
def nearestWithin?
    (disk : Disk)
    (directory : Location)
    (inside : List Text) : Option Location :=
  inside.inits.reverse.findSome? fun front =>
    inDirectory? disk (directory ++ front)

/-
  The settings file in the deepest directory that has one, of
  a directory and those above it.
-/
def nearest?
    (disk : Disk)
    (directory : Location) : Option Location :=
  nearestWithin? disk [] directory

/- The first settings file in the directory of the user. -/
def homeFile?
    (world : World) : Option Location :=
  world.home.bind fun home =>
    names.findSome? fun name =>
      world.disk.there? world.directory (Path.join home name)

theorem isFileName_of_mem_names :
    ∀ name ∈ names, Path.IsFileName name := by
  decide +kernel

------------------------------------------------------------
-- Looking Around
------------------------------------------------------------

theorem run_isThere
    (world : World)
    (path : Path) :
    (Host.isThere path : InMemory Bool).run world =
      ((world.disk.there? world.directory path).isSome,
        world) := by
  have hInfo :
      (Host.info path : InMemory _).run world =
        (world.disk.info world.directory path, world) :=
    rfl
  unfold Host.isThere Disk.there?
  rw [InMemory.run_bind, hInfo]
  unfold Disk.info
  cases world.disk.find world.directory path with
  | error error => rfl
  | ok entry =>
      obtain ⟨location, node⟩ := entry
      cases node <;> rfl

theorem run_firstThere?
    (world : World)
    (paths : List Path) :
    (firstThere? paths : InMemory _).run world =
      (paths.find? fun path =>
        (world.disk.there? world.directory path).isSome,
        world) := by
  induction paths with
  | nil => rfl
  | cons path rest ih =>
      unfold firstThere?
      rw [InMemory.run_bind, run_isThere, List.find?_cons]
      cases (world.disk.there? world.directory path).isSome with
      | false => exact ih
      | true => rfl

section Lists

variable {α β γ : Type}

/- What the first element with a value has as its value. -/
theorem find?_bind
    (look : α → Option β)
    (list : List α) :
    (list.find? fun a => (look a).isSome).bind look =
      list.findSome? look := by
  induction list with
  | nil => rfl
  | cons first rest ih =>
      rw [List.find?_cons, List.findSome?_cons]
      cases hLook : look first with
      | none => exact ih
      | some value => exact hLook

theorem findSome?_flatMap
    (look : β → Option γ)
    (inside : α → List β)
    (list : List α) :
    (list.flatMap inside).findSome? look =
      list.findSome? fun a => (inside a).findSome? look := by
  induction list with
  | nil => rfl
  | cons first rest ih =>
      rw [List.flatMap_cons, List.findSome?_append, ih,
        List.findSome?_cons]
      cases (inside first).findSome? look <;> rfl

theorem findSome?_congr
    {look other : α → Option β}
    {list : List α}
    (hSame : ∀ a ∈ list, look a = other a) :
    list.findSome? look = list.findSome? other := by
  induction list with
  | nil => rfl
  | cons first rest ih =>
      rw [List.forall_mem_cons] at hSame
      rw [List.findSome?_cons, List.findSome?_cons, hSame.1,
        ih hSame.2]

end Lists

/-
  What is found is the first that is there, above the start
  or else in the directory of the user.
-/
theorem found_eq_or
    (world : World)
    (start : Path) :
    found world start =
      ((candidates (Path.ancestors start)).findSome?
        (world.disk.there? world.directory)).or
          (homeFile? world) := by
  have hHome :
      (Host.homeDirectory : InMemory (Option Path)).run world =
        (world.home, world) :=
    rfl
  unfold found find?
  rw [InMemory.run_bind, run_firstThere?, ← find?_bind]
  cases hFirst :
      (candidates (Path.ancestors start)).find? fun path =>
        (world.disk.there? world.directory path).isSome with
  | some path =>
      obtain ⟨location, hThere⟩ :=
        Option.isSome_iff_exists.mp
          (List.find?_some
            (p := fun path =>
              (world.disk.there? world.directory path).isSome)
            hFirst)
      rw [Option.bind_some, hThere]
      exact hThere
  | none =>
      unfold homeFile?
      dsimp only
      rw [InMemory.run_bind, hHome]
      cases world.home with
      | none => rfl
      | some home =>
          dsimp only
          rw [run_firstThere?, find?_bind]
          unfold candidates
          rw [findSome?_flatMap, List.findSome?_singleton,
            List.findSome?_map]
          rfl

------------------------------------------------------------
-- Searching Upward
------------------------------------------------------------

/-
  Whether the paths of the settings files in a directory are
  short enough for the system.
-/
def Fits
    (path : Path) : Prop :=
  ∀ name ∈ names,
    Disk.byteLength (Path.join path name) < 4096

instance : DecidablePred Fits := fun path =>
  inferInstanceAs (Decidable (∀ name ∈ names,
    Disk.byteLength (Path.join path name) < 4096))

theorem Fits.of_lt
    {path longer : Path}
    (hFits : Fits longer)
    (hShorter :
      Disk.byteLength path < Disk.byteLength longer) :
    Fits path := by
  intro name hName
  have hRelative :=
    (isFileName_of_mem_names name hName).isAbsolute_eq
  have hShort := Path.byteLength_join path hRelative
  have hLong := Path.byteLength_join longer hRelative
  have hLimit := hFits name hName
  omega

theorem Fits.of_parent?
    {path above : Path}
    (hParent : Path.parent? path = some above)
    (hFits : Fits path) :
    Fits above := by
  obtain ⟨rest, hNe, rfl⟩ :=
    Path.exists_append_of_parent? hParent
  apply hFits.of_lt
  have hRest := Path.byteLength_pos hNe
  rw [Path.byteLength_append]
  omega

/- What holds of a start holds of what is above it. -/
theorem properties_of_mem_ancestors
    (hAbove : Path.above ∉ Path.segments start)
    (hFits : Fits start) :
    ∀ path ∈ Path.ancestors start,
      Path.isAbsolute path = Path.isAbsolute start ∧
        Path.above ∉ Path.segments path ∧ Fits path := by
  refine Path.all_ancestors ?_ ⟨rfl, hAbove, hFits⟩
  rintro path above hParent ⟨hAbsolute, hLevel, hShort⟩
  refine ⟨?_, fun hMem => ?_, hShort.of_parent? hParent⟩
  · rw [Path.isAbsolute_of_parent? hParent, hAbsolute]
  · rcases Path.mem_segments_of_parent? hParent hMem with
      hEmpty | hMem
    · cases hEmpty
    · exact hLevel hMem

/-
  What is found from a path without steps up is the nearest
  settings file of those between where the path starts and
  where it leads, else that of the user.
-/
theorem found_eq
    (hTree : world.disk.IsTree)
    (hAbove : Path.above ∉ Path.segments start)
    (hFits : Fits start) :
    found world start =
      (nearestWithin? world.disk
        (if Path.isAbsolute start then [] else world.directory)
        (Path.names start)).or
          (homeFile? world) := by
  rw [found_eq_or]
  congr 1
  unfold candidates nearestWithin?
  rw [findSome?_flatMap, ← Path.findSome?_ancestors]
  apply findSome?_congr
  intro path hPath
  obtain ⟨hAbsolute, hLevel, hShort⟩ :=
    properties_of_mem_ancestors hAbove hFits path hPath
  rw [List.findSome?_map, Function.comp_apply]
  unfold inDirectory?
  apply findSome?_congr
  intro name hName
  rw [Function.comp_apply,
    hTree.there?_join world.directory
      (isFileName_of_mem_names name hName) hLevel
      (hShort name hName)]
  unfold Path.goal
  rw [hAbsolute]

------------------------------------------------------------
-- Nearest Settings Files
------------------------------------------------------------

variable {directory : Location}

theorem nearestWithin?_nil :
    nearestWithin? disk directory [] =
      inDirectory? disk directory := by
  unfold nearestWithin?
  rw [List.inits, List.reverse_singleton,
    List.findSome?_singleton, List.append_nil]

theorem nearestWithin?_concat
    (inside : List Text)
    (last : Text) :
    nearestWithin? disk directory (inside ++ [last]) =
      (inDirectory? disk (directory ++ (inside ++ [last]))).or
        (nearestWithin? disk directory inside) := by
  unfold nearestWithin?
  rw [Path.reverse_inits_concat, List.findSome?_cons]
  cases inDirectory? disk (directory ++ (inside ++ [last])) <;>
    rfl

/- Nothing is nearer than the directory itself. -/
theorem inDirectory?_or_nearest? :
    (inDirectory? disk directory).or
        (nearest? disk directory) =
      nearest? disk directory := by
  unfold nearest?
  rcases List.eq_nil_or_concat directory with
    rfl | ⟨front, last, rfl⟩
  · rw [nearestWithin?_nil, Option.or_self]
  · rw [List.concat_eq_append, nearestWithin?_concat,
      List.nil_append, ← Option.or_assoc, Option.or_self]

/- Inside of a directory comes before above it. -/
theorem nearest?_append
    (directory : Location)
    (inside : List Text) :
    nearest? disk (directory ++ inside) =
      (nearestWithin? disk directory inside).or
        (nearest? disk directory) := by
  induction inside using List.reverseRecOn with
  | nil =>
      rw [List.append_nil, nearestWithin?_nil,
        inDirectory?_or_nearest?]
  | append_singleton inside last ih =>
      unfold nearest? at ih ⊢
      rw [← List.append_assoc, nearestWithin?_concat, ih,
        nearestWithin?_concat, Option.or_assoc,
        List.nil_append, List.append_assoc]

------------------------------------------------------------
-- Relative Paths
------------------------------------------------------------

/- What stands in a path is no step up if it has a name. -/
theorem above_not_mem_segments_path
    (hNames : ∀ name ∈ directory, Path.IsFileName name) :
    Path.above ∉ Path.segments directory.path := by
  intro hMem
  have hAbove : Path.above ∈ Path.names directory.path :=
    List.mem_filter.mpr ⟨hMem, by decide⟩
  rw [Path.names_path hNames] at hAbove
  exact (hNames _ hAbove).ne_above rfl

/-
  The settings file that is found from a path in the current
  directory, if that is spelled out, is the nearest one, else
  that of the user.  From the relative path alone, it is the
  same one, unless the nearest one stands above the current
  directory and is not that of the user.
-/
theorem found_join_and_eq_iff
    (hTree : world.disk.IsTree)
    (hDirectory :
      world.disk.get? world.directory = some .directory)
    (hRelative : Path.isAbsolute start = false)
    (hAbove : Path.above ∉ Path.segments start)
    (hFits : Fits (Path.join world.directory.path start)) :
    found world (Path.join world.directory.path start) =
        (nearest? world.disk
          (world.directory ++ Path.names start)).or
            (homeFile? world) ∧
      (found world start =
          found world (Path.join world.directory.path start) ↔
        (nearestWithin? world.disk world.directory
            (Path.names start)).isSome ∨
          nearest? world.disk world.directory = none ∨
          nearest? world.disk world.directory =
            homeFile? world) := by
  have hNames :
      ∀ name ∈ world.directory, Path.IsFileName name :=
    hTree.isFileName (by rw [hDirectory]; rfl)
  have hJoin :
      found world (Path.join world.directory.path start) =
        (nearest? world.disk
          (world.directory ++ Path.names start)).or
            (homeFile? world) := by
    have hLevel :
        Path.above ∉
          Path.segments
            (Path.join world.directory.path start) := by
      intro hMem
      rcases Path.mem_segments_join hRelative hMem with
        hMem | hMem
      · exact above_not_mem_segments_path hNames hMem
      · exact hAbove hMem
    rw [found_eq hTree hLevel hFits,
      Path.isAbsolute_join hRelative,
      Path.names_join _ hRelative, Path.names_path hNames]
    rfl
  have hStart :
      found world start =
        (nearestWithin? world.disk world.directory
          (Path.names start)).or
            (homeFile? world) := by
    have hShorter : Fits start := by
      apply hFits.of_lt
      have hLength :=
        (Path.byteLength_join world.directory.path hRelative).1
      have hPath : 0 < Disk.byteLength world.directory.path :=
        Path.byteLength_pos (List.cons_ne_nil _ _)
      omega
    rw [found_eq hTree hAbove hShorter, hRelative]
    rfl
  refine ⟨hJoin, ?_⟩
  rw [hJoin, hStart, nearest?_append]
  cases nearestWithin? world.disk world.directory
      (Path.names start) with
  | some file => simp
  | none =>
      cases nearest? world.disk world.directory with
      | none => simp
      | some file => simp [eq_comm]

/- A system that stands in one of two directories. -/
def worldIn
    (settings : Location) : World :=
  { disk :=
      { nodes :=
          [(["app".toList], .directory),
            (["app".toList, "lib".toList], .directory),
            (settings, .file (.bytes []))] }
    directory := ["app".toList] }

/- A file in the current directory is found in both ways. -/
theorem found_join_and_eq_iff_current :
    let file := ["app".toList, ".scopewraprc".toList]
    let world := worldIn file
    let start := "./lib".toList
    world.disk.IsTree ∧
      world.disk.get? world.directory = some .directory ∧
      Path.isAbsolute start = false ∧
      Path.above ∉ Path.segments start ∧
      Fits (Path.join world.directory.path start) ∧
      found world (Path.join world.directory.path start) =
        some file ∧
      found world start = some file := by
  intro file world start
  have hTree : world.disk.IsTree := by decide +kernel
  have hDirectory :
      world.disk.get? world.directory = some .directory := by
    decide +kernel
  have hRelative : Path.isAbsolute start = false := by
    decide +kernel
  have hAbove : Path.above ∉ Path.segments start := by
    decide +kernel
  have hFits :
      Fits (Path.join world.directory.path start) := by
    decide +kernel
  obtain ⟨hJoin, hIff⟩ :=
    found_join_and_eq_iff hTree hDirectory hRelative hAbove
      hFits
  have hFound :
      found world (Path.join world.directory.path start) =
        some file := by
    rw [hJoin]
    decide +kernel
  refine ⟨hTree, hDirectory, hRelative, hAbove, hFits, hFound,
    ?_⟩
  rw [← hFound, hIff]
  exact .inl (by decide +kernel)

/- A file above the current directory is missed. -/
theorem found_ne_found_join :
    let file := [".scopewraprc".toList]
    let world := worldIn file
    let start := "lib".toList
    world.disk.IsTree ∧
      world.disk.get? world.directory = some .directory ∧
      Path.isAbsolute start = false ∧
      Path.above ∉ Path.segments start ∧
      Fits (Path.join world.directory.path start) ∧
      found world (Path.join world.directory.path start) =
        some file ∧
      found world start = none := by
  decide +kernel

end SettingsSearch

end NotifyScope
