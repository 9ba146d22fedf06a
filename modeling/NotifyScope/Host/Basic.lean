import NotifyScope.Failure
import NotifyScope.Path

/-
  This file defines what the program needs from the system
  that it runs on.  The program is written for every such
  system, so that it can be run on a disk in memory as well.

  Key definitions include:
    * `HostError`
    * `Content`
    * `Host`
    * `Task`
-/

namespace NotifyScope

------------------------------------------------------------
-- Errors
------------------------------------------------------------

/- Why the system refuses something. -/
inductive HostError where
  | notFound
  | notDirectory
  | isDirectory
  | nameTooLong
  | zeroByte
  | notText
  | other (text : String)
deriving DecidableEq, Repr

namespace HostError

/- What to say about an error. -/
def message : HostError → String
  | notFound => "No such file or directory (os error 2)"
  | notDirectory => "Not a directory (os error 20)"
  | isDirectory => "Is a directory (os error 21)"
  | nameTooLong => "File name too long (os error 36)"
  | zeroByte => "file name contained an unexpected NUL byte"
  | notText => "stream did not contain valid UTF-8"
  | other text => text

/- The failure that an error is in some activity. -/
def failure
    (error : HostError)
    (context : String) : Failure :=
  (Failure.system error.message).within context

end HostError

------------------------------------------------------------
-- Files
------------------------------------------------------------

/- What a file holds. -/
inductive Content where
  | bytes (data : List UInt8)
  /- So many zero bytes, which take no space. -/
  | zeros (count : Nat)
deriving DecidableEq, Repr

namespace Content

/- The number of bytes. -/
def size : Content → Nat
  | bytes data => data.length
  | zeros count => count

/- All bytes. -/
def toBytes : Content → List UInt8
  | bytes data => data
  | zeros count => List.replicate count 0

/- The source text in a file. -/
def decode
    (content : Content)
    (label : String) : Except Failure Text :=
  match content with
  | bytes data => decodeBytes data label
  | zeros 0 => .ok []
  | zeros _ => .error (.binary label)

/- The text in a file, also with zero bytes. -/
def text
    (content : Content) : Except HostError Text :=
  match Utf8.decode content.toBytes with
  | .ok text => .ok text
  | .error _ => .error .notText

end Content

/- What is known of a file without reading it. -/
structure FileInfo where
  isFile : Bool
  isDirectory : Bool
  size : Nat
deriving DecidableEq, Repr

/- A name in a directory. -/
structure DirectoryEntry where
  name : Text
  /- Whether it is a directory and no link to one. -/
  isDirectory : Bool
deriving DecidableEq, Repr

------------------------------------------------------------
-- Hosts
------------------------------------------------------------

/- What a system offers. -/
class Host (m : Type → Type) where
  /- Look at what a path leads to. -/
  info : Path → m (Except HostError FileInfo)
  /- Read a file. -/
  read : Path → m (Except HostError Content)
  /- Make a file hold the bytes, and create it if need be. -/
  write : Path → List UInt8 → m (Except HostError Unit)
  /- Make the second file hold what the first one holds. -/
  copy : Path → Path → m (Except HostError Unit)
  /- List a directory. -/
  entries :
    Path → m (Except HostError (List DirectoryEntry))
  /- The one absolute path of what a path leads to. -/
  canonical : Path → m (Except HostError Path)
  /- The directory that relative paths start from. -/
  workingDirectory : m (Option Path)
  /- The directory of the user. -/
  homeDirectory : m (Option Path)
  /- The value of an environment variable. -/
  environment : String → m (Option String)
  /- Whether the output goes to a terminal. -/
  isTerminal : m Bool
  /- All of the standard input. -/
  input : m (Except HostError (List UInt8))
  /- Write to the standard output. -/
  output : String → m Unit
  /- Write to the standard error. -/
  complain : String → m Unit
  /- The nanoseconds since some moment. -/
  clock : m Nat
  /-
    Watch files until the user has enough.  Each time some of
    them change, a state is carried on with the milliseconds
    since some moment and the paths that changed.
  -/
  watch :
    {σ : Type} → List Path → σ →
      (σ → Nat → List Path → m σ) → m σ

/- A piece of work that can fail. -/
abbrev Task (m : Type → Type) := ExceptT Failure m

namespace Host

variable {m : Type → Type} [Monad m] [Host m]

/- Whether a path leads to something. -/
def isThere
    (path : Path) : m Bool := do
  match ← info path with
  | .ok _ => pure true
  | .error _ => pure false

/- Whether a path leads to a file. -/
def isFile
    (path : Path) : m Bool := do
  match ← info path with
  | .ok info => pure info.isFile
  | .error _ => pure false

/- Whether a path leads to a directory. -/
def isDirectory
    (path : Path) : m Bool := do
  match ← info path with
  | .ok info => pure info.isDirectory
  | .error _ => pure false

/- Read a file as text. -/
def readText
    (path : Path) : m (Except HostError Text) := do
  match ← read path with
  | .ok content => pure content.text
  | .error error => pure (.error error)

/- Fail in some activity if the system refuses. -/
def attempt
    {α : Type}
    (context : String)
    (action : m (Except HostError α)) : Task m α := do
  match ← (action : m (Except HostError α)) with
  | .ok value => pure value
  | .error error => throw (error.failure context)

/- Write a line to the standard output. -/
def outputLine
    (line : String) : m Unit :=
  output (line ++ "\n")

/- Write a line to the standard error. -/
def complainLine
    (line : String) : m Unit :=
  complain (line ++ "\n")

end Host

end NotifyScope
