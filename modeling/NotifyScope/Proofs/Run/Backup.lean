import NotifyScope.Proofs.Host.Copies
import NotifyScope.Proofs.Host.Tree
import NotifyScope.Proofs.Run.Showing
import NotifyScope.Host.Memory
import NotifyScope.Run.Output

/-
  What is left of a file that is saved after a backup.  The
  backup holds what the file held, unless its path leads to
  the file itself: then the file is overwritten, and nothing
  holds what it held.  An extension that is not empty and has
  no separator keeps them apart.

  Key definitions include:
    * `Session.withExtension`

  Main declarations:
    * `Session.exists_of_store`
    * `Session.backedUp_iff_of_store`
    * `Session.not_backedUp_of_empty_extension`
    * `Session.backedUp_of_extension`
-/

namespace NotifyScope

namespace Session

variable {session : Session}
variable {world after : World}
variable {path : Path}
variable {document : Document}

/- With a backup, a file is copied before it is written. -/
theorem store_of_backup
    (hBackup : session.settings.backup = true) :
    (session.store path document : Task InMemory Unit) = (do
      Host.attempt
        ("Failed to create backup at " ++
          Text.str (session.backupPath path))
        (InMemory.change fun disk base =>
          disk.copy base path (session.backupPath path))
      session.console.say (m := InMemory) .dim
        ("Created backup: " ++
          Text.str (session.backupPath path))
      Host.attempt
        ("Failed to write to file: " ++ Text.str path)
        (InMemory.change fun disk base =>
          disk.write base path
            (Utf8.encode document.rewritten))) := by
  unfold store
  rw [hBackup]
  rfl

/- So where it is saved, both steps have succeeded. -/
theorem exists_of_store
    (hBackup : session.settings.backup = true)
    (hStore :
      (session.store path document : Task InMemory Unit).run.run
        world = (.ok (), after)) :
    ∃ copied,
      world.disk.copy world.directory path
          (session.backupPath path) = .ok copied ∧
        copied.write world.directory path
            (Utf8.encode document.rewritten) =
          .ok after.disk ∧
        after.directory = world.directory := by
  rw [store_of_backup hBackup, Task.run_bind,
    Host.run_attempt, InMemory.run_change] at hStore
  cases hCopy :
      world.disk.copy world.directory path
        (session.backupPath path) with
  | error error =>
      rw [hCopy] at hStore
      cases hStore
  | ok copied =>
      rw [hCopy] at hStore
      dsimp only [Except.mapError] at hStore
      rw [Task.run_bind, Task.run_lift] at hStore
      dsimp only at hStore
      have hSay :=
        Console.keeps_say
          (InMemory.talking.on session.console) .dim
          ("Created backup: " ++
            Text.str (session.backupPath path))
          { world with disk := copied }
      generalize
        StateT.run
          (session.console.say .dim
            ("Created backup: " ++
              Text.str (session.backupPath path)) :
            InMemory Unit)
          { world with disk := copied } = said
            at hSay hStore
      obtain ⟨hDisk, hDirectory⟩ := Prod.ext_iff.mp hSay
      dsimp only at hDisk hDirectory
      rw [Host.run_attempt, InMemory.run_change, hDisk,
        hDirectory] at hStore
      cases hWrite :
          copied.write world.directory path
            (Utf8.encode document.rewritten) with
      | error error =>
          rw [hWrite] at hStore
          cases hStore
      | ok written =>
          rw [hWrite] at hStore
          cases hStore
          exact ⟨copied, rfl, hWrite, rfl⟩

/-
  If a file is saved after a backup, then the backup is one
  exactly if its path leads elsewhere than that of the file,
  or if the file held already what it is to hold.
-/
theorem backedUp_iff_of_store
    (hBackup : session.settings.backup = true)
    (hStore :
      (session.store path document : Task InMemory Unit).run.run
        world = (.ok (), after)) :
    after.directory = world.directory ∧
      (world.disk.BackedUp after.disk world.directory path
          (session.backupPath path)
          (Utf8.encode document.rewritten) ↔
        world.disk.resolve world.directory
              (session.backupPath path) ≠
            world.disk.resolve world.directory path ∨
          world.disk.bytes? world.directory path =
            some (Utf8.encode document.rewritten)) := by
  obtain ⟨copied, hCopy, hWrite, hDirectory⟩ :=
    exists_of_store hBackup hStore
  exact ⟨hDirectory, Disk.backedUp_iff hCopy hWrite⟩

/- A run that makes backups with an extension. -/
def withExtension
    (backupExtension : String) : Session :=
  { settings :=
      { Settings.ofParts {} {} none 2
          RuleSpec.builtIn.check.toOption.toList with
        backup := true
        backupExtension := backupExtension.toList }
    console := { colored := false, verbose := false } }

/- A directory that holds one file. -/
def onlyFile
    (text : Text) : World :=
  { disk :=
      { nodes :=
          [(["a.dart".toList],
            .file (.bytes (Utf8.encode text)))] } }

/- The standard extension leads to another file. -/
theorem backedUp_iff_of_store_bak :
    let session := withExtension ".bak"
    let text := "void _generateQuestion() \x7b\n\x7d\n".toList
    let path := "a.dart".toList
    let document :=
      Document.rewrite session.settings.rules
        session.settings.layout "a.dart" text
    ∃ after,
      session.settings.backup = true ∧
        (session.store path document :
            Task InMemory Unit).run.run (onlyFile text) =
          (.ok (), after) ∧
        (onlyFile text).disk.BackedUp after.disk [] path
          "a.dart.bak".toList
          (Utf8.encode document.rewritten) := by
  intro session text path document
  have hStore :
      (session.store path document :
          Task InMemory Unit).run.run (onlyFile text) =
        (.ok (), ((session.store path document :
          Task InMemory Unit).run.run (onlyFile text)).2) :=
    Prod.ext (by rfl) rfl
  refine ⟨_, rfl, hStore, ?_⟩
  exact (backedUp_iff_of_store rfl hStore).2.mpr
    (.inl (by decide +kernel))

/- Without an extension, nothing is left of the file. -/
theorem not_backedUp_of_empty_extension :
    let session := withExtension ""
    let text :=
      "void _generateQuestion() \x7b\n  a();\n\x7d\n".toList
    let path := "a.dart".toList
    let document :=
      Document.rewrite session.settings.rules
        session.settings.layout "a.dart" text
    ∃ after,
      session.settings.backup = true ∧
        (session.store path document :
            Task InMemory Unit).run.run (onlyFile text) =
          (.ok (), after) ∧
        ¬(onlyFile text).disk.BackedUp after.disk [] path
          (session.backupPath path)
          (Utf8.encode document.rewritten) := by
  intro session text path document
  refine ⟨_, rfl, Prod.ext (by rfl) rfl, ?_⟩
  have hLost :
      (onlyFile text).disk.bytes? [] path ≠
        ((session.store path document :
          Task InMemory Unit).run.run
            (onlyFile text)).2.disk.bytes? []
              (session.backupPath path) := by
    decide +kernel
  rintro ⟨⟨old, hBefore, hAfter⟩, -, -⟩
  exact hLost (hBefore.trans hAfter.symm)

/-
  With an extension that is not empty and has no separator,
  the backup is always one.
-/
theorem backedUp_of_extension
    (hTree : world.disk.IsTree)
    (hNe : session.settings.backupExtension ≠ [])
    (hSlash : '/' ∉ session.settings.backupExtension)
    (hBackup : session.settings.backup = true)
    (hStore :
      (session.store path document : Task InMemory Unit).run.run
        world = (.ok (), after)) :
    world.disk.BackedUp after.disk world.directory path
      (session.backupPath path)
      (Utf8.encode document.rewritten) := by
  obtain ⟨copied, hCopy, hWrite, -⟩ :=
    exists_of_store hBackup hStore
  obtain ⟨location, target, content, kept, hPath, hContent,
    -⟩ :=
    Disk.exists_of_copy hCopy
  refine (Disk.backedUp_iff hCopy hWrite).mpr (.inl ?_)
  rw [hPath]
  refine hTree.resolve_append_ne hNe hSlash ?_ hPath
  rw [hContent]
  exact fun hNode => by cases hNode

end Session

end NotifyScope
