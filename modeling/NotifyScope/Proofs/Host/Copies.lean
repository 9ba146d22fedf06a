import NotifyScope.Proofs.Host.Files

/-
  What copying a file and writing a file leave behind.  Both
  change what is at one location, which is no directory, so
  that all paths that lead somewhere still lead there.  What
  a file is copied to holds the same, unless it is the file
  itself.

  Key definitions include:
    * `Disk.Put`
    * `Disk.BackedUp`

  Main declarations:
    * `Disk.get?_set`
    * `Disk.resolve_of_directories`
    * `Disk.exists_of_write`
    * `Disk.exists_of_copy`
    * `Disk.backedUp_iff`
-/

namespace NotifyScope

namespace Disk

variable {disk other : Disk}
variable {base location target : Location}
variable {path source : Path}
variable {content : Content}

------------------------------------------------------------
-- Replacing
------------------------------------------------------------

theorem get?_set
    (hRoot : location ≠ [])
    (node : Node)
    (key : Location) :
    (disk.set location node).get? key =
      if key = location then some node else disk.get? key := by
  unfold get? set
  by_cases hKey : key = []
  · subst hKey
    rw [if_pos rfl, if_pos rfl, if_neg (Ne.symm hRoot)]
  · rw [if_neg hKey, if_neg hKey]
    split
    · rename_i hThere
      rw [lookup_replace]
      by_cases hSame : key = location
      · subst hSame
        obtain ⟨old, hOld⟩ :=
          Option.isSome_iff_exists.mp hThere
        simp [hOld]
      · simp [hSame]
    · rename_i hAbsent
      have hNone : disk.nodes.lookup location = none :=
        Option.not_isSome_iff_eq_none.mp hAbsent
      rw [List.lookup_append]
      by_cases hSame : key = location
      · subst hSame
        simp [hNone]
      · have hOther : (key == location) = false := by
          simpa using hSame
        simp [hSame, List.lookup_cons, hOther]

theorem follow_of_directories
    (hDirectories : ∀ key,
      disk.get? key = some .directory →
        other.get? key = some .directory)
    {start : Location}
    {segments : List Text}
    (hFollow : disk.follow start segments = .ok location) :
    other.follow start segments = .ok location := by
  induction segments generalizing start with
  | nil => exact hFollow
  | cons segment rest ih =>
      unfold follow at hFollow ⊢
      split at hFollow
      · cases hFollow
      · cases hFollow
      · rename_i hHere
        rw [hDirectories _ hHere]
        dsimp only
        split
        · rename_i hSilent
          rw [if_pos hSilent] at hFollow
          exact ih hFollow
        · rename_i hSpeaks
          rw [if_neg hSpeaks] at hFollow
          split
          · rename_i hAbove
            rw [if_pos hAbove] at hFollow
            exact ih hFollow
          · rename_i hLevel
            rw [if_neg hLevel] at hFollow
            split
            · rename_i hLong
              rw [if_pos hLong] at hFollow
              cases hFollow
            · rename_i hShort
              rw [if_neg hShort] at hFollow
              exact ih hFollow

/-
  A path that leads somewhere still leads there if all that
  was a directory is one.
-/
theorem resolve_of_directories
    (hDirectories : ∀ key,
      disk.get? key = some .directory →
        other.get? key = some .directory)
    (hResolve : disk.resolve base path = .ok location) :
    other.resolve base path = .ok location := by
  unfold resolve at hResolve ⊢
  split at hResolve
  · cases hResolve
  · split at hResolve
    · cases hResolve
    · split at hResolve
      · cases hResolve
      · rename_i hNe hZero hShort
        rw [if_neg hNe, if_neg hZero, if_neg hShort]
        exact follow_of_directories hDirectories hResolve

/- What is written to is no directory. -/
theorem of_target_eq_ok
    (hTarget : disk.target base path = .ok location) :
    disk.resolve base path = .ok location ∧
      disk.get? location ≠ some .directory := by
  unfold target at hTarget
  split at hTarget
  · split at hTarget <;> cases hTarget
  · rename_i found hResolve
    split at hTarget
    · cases hTarget
    · rename_i hNode
      cases hTarget
      exact ⟨hResolve, hNode⟩

theorem read_eq_ok_iff :
    disk.read base path = .ok content ↔
      ∃ location, disk.resolve base path = .ok location ∧
        disk.get? location = some (.file content) := by
  unfold read
  constructor
  · intro hRead
    split at hRead
    · cases hRead
    · cases hRead
    · rename_i location found hFind
      cases hRead
      exact ⟨location, find_eq_ok_iff.mp hFind⟩
  · rintro ⟨location, hFound⟩
    rw [find_eq_ok_iff.mpr hFound]

------------------------------------------------------------
-- Writing and Copying
------------------------------------------------------------

/-
  Whether a disk differs from another one at most in what is
  at one location: a file with some content, where there was
  no directory before.
-/
structure Put
    (disk other : Disk)
    (location : Location)
    (content : Content) : Prop where
  free : disk.get? location ≠ some .directory
  here : other.get? location = some (.file content)
  elsewhere : ∀ key, key ≠ location →
    other.get? key = disk.get? key

namespace Put

variable {content' : Content}
variable {last : Disk}

theorem directories
    (hPut : disk.Put other location content)
    (key : Location)
    (hKey : disk.get? key = some .directory) :
    other.get? key = some .directory := by
  rw [hPut.elsewhere key, hKey]
  rintro rfl
  exact hPut.free hKey

/- Paths lead where they did. -/
theorem resolve
    (hPut : disk.Put other location content)
    (hResolve : disk.resolve base path = .ok target) :
    other.resolve base path = .ok target :=
  resolve_of_directories hPut.directories hResolve

/- What is put there last is there. -/
theorem trans
    (hFirst : disk.Put other location content)
    (hSecond : other.Put last location content') :
    disk.Put last location content' where
  free := hFirst.free
  here := hSecond.here
  elsewhere key hKey :=
    (hSecond.elsewhere key hKey).trans
      (hFirst.elsewhere key hKey)

end Put

theorem put_set
    (hFree : disk.get? location ≠ some .directory)
    (content : Content) :
    disk.Put (disk.set location (.file content)) location
      content := by
  have hRoot : location ≠ [] := by
    rintro rfl
    exact hFree rfl
  refine ⟨hFree, ?_, fun key hKey => ?_⟩
  · rw [get?_set hRoot, if_pos rfl]
  · rw [get?_set hRoot, if_neg hKey]

/- Writing puts the bytes where the path leads. -/
theorem exists_of_write
    {data : List UInt8}
    (hWrite : disk.write base path data = .ok other) :
    ∃ location, disk.resolve base path = .ok location ∧
      disk.Put other location (.bytes data) := by
  unfold write at hWrite
  split at hWrite
  · cases hWrite
  · rename_i location hTarget
    obtain ⟨hResolve, hFree⟩ := of_target_eq_ok hTarget
    cases hWrite
    exact ⟨location, hResolve, put_set hFree _⟩

/-
  Copying puts a content where the path leads.  It is the one
  that is copied, unless a file is copied onto itself.
-/
theorem exists_of_copy
    (hCopy : disk.copy base source path = .ok other) :
    ∃ location target content copied,
      disk.resolve base source = .ok location ∧
        disk.get? location = some (.file content) ∧
        disk.resolve base path = .ok target ∧
        disk.Put other target copied ∧
        (target ≠ location → copied = content) := by
  unfold copy at hCopy
  split at hCopy
  · cases hCopy
  · rename_i content hRead
    obtain ⟨location, hSource, hContent⟩ :=
      read_eq_ok_iff.mp hRead
    split at hCopy
    · cases hCopy
    · rename_i target hTarget
      obtain ⟨hPath, hFree⟩ := of_target_eq_ok hTarget
      have hEmptied := put_set hFree (.bytes [])
      dsimp only at hCopy
      split at hCopy
      · cases hCopy
      · rename_i copied hAgain
        cases hCopy
        have hFile :
            (disk.set target (.file (.bytes []))).get? target ≠
              some .directory := by
          rw [hEmptied.here]
          exact fun hNode => by cases hNode
        refine ⟨location, target, content, copied, hSource,
          hContent, hPath,
          hEmptied.trans (put_set hFile copied),
          fun hNe => ?_⟩
        obtain ⟨found, hFound, hCopied⟩ :=
          read_eq_ok_iff.mp hAgain
        cases (hEmptied.resolve hSource).symm.trans hFound
        rw [hEmptied.elsewhere location (Ne.symm hNe),
          hContent] at hCopied
        cases hCopied
        rfl

theorem bytes?_of_resolve
    (hResolve : disk.resolve base path = .ok location)
    (hContent : disk.get? location = some (.file content)) :
    disk.bytes? base path = some content.toBytes :=
  bytes?_of_get?
    (file?_eq_some_iff.mpr
      ⟨hResolve, isFile_iff.mpr ⟨content, hContent⟩⟩)
    hContent

------------------------------------------------------------
-- Backups
------------------------------------------------------------

variable {backup : Path}
variable {data : List UInt8}
variable {copied written : Disk}

/-
  Whether a disk differs from an earlier one in that a file
  holds some bytes, and another path leads to what the file
  held before.
-/
structure BackedUp
    (before after : Disk)
    (base : Location)
    (path backup : Path)
    (data : List UInt8) : Prop where
  original : ∃ old, before.bytes? base path = some old ∧
    after.bytes? base backup = some old
  rewritten : after.bytes? base path = some data
  elsewhere : ∀ location,
    after.resolve base path ≠ .ok location →
      after.resolve base backup ≠ .ok location →
        after.get? location = before.get? location

/-
  A file is copied before it is written.  The copy keeps what
  the file held, unless it is the file itself.
-/
theorem backedUp_iff
    (hCopy : disk.copy base path backup = .ok copied)
    (hWrite : copied.write base path data = .ok written) :
    disk.BackedUp written base path backup data ↔
      disk.resolve base backup ≠ disk.resolve base path ∨
        disk.bytes? base path = some data := by
  obtain ⟨location, target, content, kept, hPath, hContent,
    hBackup, hCopied, hKept⟩ :=
    exists_of_copy hCopy
  obtain ⟨found, hFound, hWritten⟩ := exists_of_write hWrite
  cases (hCopied.resolve hPath).symm.trans hFound
  have hOld := bytes?_of_resolve hPath hContent
  have hPathAfter := hWritten.resolve hFound
  have hBackupAfter :=
    hWritten.resolve (hCopied.resolve hBackup)
  have hNew := bytes?_of_resolve hPathAfter hWritten.here
  have hElsewhere :
      ∀ key, written.resolve base path ≠ .ok key →
        written.resolve base backup ≠ .ok key →
          written.get? key = disk.get? key := by
    intro key hKey hOther
    rw [hPathAfter] at hKey
    rw [hBackupAfter] at hOther
    rw [hWritten.elsewhere key fun hEq => hKey (hEq ▸ rfl),
      hCopied.elsewhere key fun hEq => hOther (hEq ▸ rfl)]
  rw [hPath, hBackup, hOld]
  by_cases hSame : target = location
  · -- The file is its own backup, and is overwritten.
    subst hSame
    have hBackupNew :=
      bytes?_of_resolve hBackupAfter hWritten.here
    constructor
    · rintro ⟨⟨old, hBefore, hAfter⟩, -, -⟩
      rw [hOld] at hBefore
      rw [hBackupNew] at hAfter
      exact .inr (hBefore.trans hAfter.symm)
    · intro hEither
      have hEqual := hEither.resolve_left fun hNe => hNe rfl
      exact ⟨⟨data, hOld.trans hEqual, hBackupNew⟩, hNew,
        hElsewhere⟩
  · have hTarget :
        written.get? target = some (.file content) := by
      rw [hWritten.elsewhere target hSame, hCopied.here,
        hKept hSame]
    have hBackupOld := bytes?_of_resolve hBackupAfter hTarget
    exact iff_of_true
      ⟨⟨_, hOld, hBackupOld⟩, hNew, hElsewhere⟩
      (.inl fun hEq => hSame (Except.ok.inj hEq))

end Disk

end NotifyScope
