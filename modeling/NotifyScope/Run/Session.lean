import NotifyScope.Run.Console

/-
  This file rewrites the inputs of a run, without saving what
  comes out.

  Key definitions include:
    * `Session`
    * `Processed`
    * `Session.rewrite`
    * `Session.load`
    * `Session.loadInput`
-/

namespace NotifyScope

------------------------------------------------------------
-- Sessions
------------------------------------------------------------

/- What all parts of a run have in common. -/
structure Session where
  settings : Settings
  console : Console
deriving Repr

/- A document with the nanoseconds that it took. -/
structure Processed where
  document : Document
  elapsed : Nat := 0
deriving DecidableEq, Repr

/- The counts of a document with the time it took. -/
def Processed.stats
    (processed : Processed) : Stats :=
  { counts := processed.document.counts
    elapsed := processed.elapsed }

namespace Session

variable {m : Type → Type} [Monad m] [Host m]

------------------------------------------------------------
-- Texts
------------------------------------------------------------

/- Rewrite a text and tell how it goes on. -/
def rewrite
    (session : Session)
    (name : String)
    (text : Text) : m Processed := do
  let started ← Host.clock
  let document :=
    Document.rewrite session.settings.rules
      session.settings.layout name text
  for event in document.trace do
    session.console.say event.tone event.message
  let stopped ← Host.clock
  return { document, elapsed := stopped - started }

/- Rewrite a text, unless it cannot be read. -/
def rewriteDecoded
    (session : Session)
    (name : String)
    (decoded : Except Failure Text) : Task m Processed :=
  match decoded with
  | .error failure => throw failure
  | .ok text => session.rewrite (m := m) name text

------------------------------------------------------------
-- Inputs
------------------------------------------------------------

/- The size in bytes up to which a file is read. -/
def sizeLimit : Nat := 100 * 1024 * 1024

/- A size in whole megabytes. -/
def megabytes
    (size : Nat) : String :=
  toString (size / (1024 * 1024)) ++ " MB"

/- The failure for a file beyond the limit. -/
def tooLarge
    (name : String)
    (size : Nat) : Failure :=
  .content
    ("File too large: " ++ name ++ " (" ++
      megabytes size ++ "). Maximum supported size is " ++
      megabytes sizeLimit ++ ".")

/-
  Rewrite the text of a file.  One that does not exist is no
  failure.
-/
def load
    (session : Session)
    (path : Path) : Task m Processed := do
  let name := Text.str path
  match ← (Host.info path : m _) with
  | .error .notFound =>
      pure { document := Document.missing name }
  | .error error =>
      throw
        (error.failure
          ("Failed to read file metadata: " ++ name))
  | .ok info =>
      if sizeLimit < info.size then
        throw (tooLarge name info.size)
      else
        let content ← Host.attempt
          ("Failed to read input file: " ++ name)
          (Host.read (m := m) path)
        session.rewriteDecoded name (content.decode name)

/- Rewrite the standard input. -/
def loadInput
    (session : Session) : Task m Processed := do
  let data ← Host.attempt "Failed to read stdin"
    (Host.input (m := m))
  session.rewriteDecoded "stdin" (decodeBytes data "stdin")

end Session

end NotifyScope
