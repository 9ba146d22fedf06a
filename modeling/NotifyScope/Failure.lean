import NotifyScope.Rewrite.Document
import NotifyScope.Text.Utf8

/-
  This file defines why a run ends early, and the number with
  which the program tells how a run went.

  Key definitions include:
    * `Failure`
    * `Failure.chain`
    * `Failure.exitCode`
    * `RunResult`
    * `decodeBytes`
-/

namespace NotifyScope

------------------------------------------------------------
-- Failures
------------------------------------------------------------

/- What a failure is about. -/
inductive FailureKind where
  /- Options or rules that cannot be used. -/
  | argument
  /- A file that is no source text. -/
  | content
  /- Anything else. -/
  | other
deriving DecidableEq, Repr

/-
  A failure: its cause, and what was going on, the outermost
  activity first.
-/
structure Failure where
  kind : FailureKind
  cause : String
  contexts : List String := []
deriving DecidableEq, Repr

namespace Failure

/- A failure of the system. -/
def system
    (cause : String) : Failure :=
  { kind := .other, cause }

/- A failure over options or rules. -/
def argument
    (cause : String) : Failure :=
  { kind := .argument, cause }

/- A failure over the content of a file. -/
def content
    (cause : String) : Failure :=
  { kind := .content, cause }

/- Tell what was going on when a failure happened. -/
def within
    (context : String)
    (failure : Failure) : Failure :=
  { failure with contexts := context :: failure.contexts }

/- The outermost text of a failure. -/
def message
    (failure : Failure) : String :=
  failure.contexts.headD failure.cause

/- All texts of a failure, down to its cause. -/
def chain
    (failure : Failure) : String :=
  ": ".intercalate (failure.contexts ++ [failure.cause])

/- The exit code for a failure.  Its cause decides. -/
def exitCode
    (failure : Failure) : Nat :=
  match failure.kind with
  | .argument => 2
  | .content => 4
  | .other => 1

/- Contexts change neither kind nor exit code. -/
theorem exitCode_within
    (context : String)
    (failure : Failure) :
    (failure.within context).exitCode =
      failure.exitCode := rfl

end Failure

------------------------------------------------------------
-- Runs
------------------------------------------------------------

/- How a run that reached its end went. -/
structure RunResult where
  dryRun : Bool := false
  wouldChange : Bool := false
  /- Some file could not be rewritten as a whole. -/
  incomplete : Bool := false
deriving DecidableEq, Repr

namespace RunResult

/- The exit code for a run. -/
def exitCode
    (outcome : RunResult) : Nat :=
  if outcome.incomplete then
    5
  else if outcome.dryRun && outcome.wouldChange then
    3
  else
    0

end RunResult

------------------------------------------------------------
-- Contents
------------------------------------------------------------

namespace Byte

/- A byte in two hexadecimal digits, with capital letters. -/
def hex
    (byte : UInt8) : String :=
  let digit := fun (n : Nat) =>
    (Nat.digitChar n).toUpper
  String.ofList
    [digit (byte.toNat / 16), digit (byte.toNat % 16)]

end Byte

/- The failure for a file that holds a zero byte. -/
def Failure.binary
    (label : String) : Failure :=
  .content ("Input appears to be binary: " ++ label)

/-
  The source text in the bytes of a file.  There is always a
  byte where decoding stops.
-/
def decodeBytes
    (bytes : List UInt8)
    (label : String) : Except Failure Text :=
  if bytes.contains 0 then
    .error (.binary label)
  else
    match Utf8.decode bytes with
    | .ok text => .ok text
    | .error position =>
        .error
          (.content
            ("Invalid UTF-8 at byte position " ++
              toString position ++ " (byte value: 0x" ++
              Byte.hex (bytes.getD position 0) ++ ") in " ++
              label))

end NotifyScope
