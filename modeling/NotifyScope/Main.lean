import NotifyScope.Options.Parse
import NotifyScope.Options.Usage
import NotifyScope.Run.Program
import Std.Internal.UV.Signal

/-
  This file is the program on a real system.

  Key definitions include:
    * `Main.host`
    * `main`
-/

namespace NotifyScope

namespace Main

------------------------------------------------------------
-- Errors
------------------------------------------------------------

/- The number and the text that the system has for an error. -/
def code? : IO.Error → Option (Nat × String)
  | .alreadyExists _ code text
  | .otherError code text
  | .resourceBusy code text
  | .resourceVanished code text
  | .unsupportedOperation code text
  | .hardwareFault code text
  | .unsatisfiedConstraints code text
  | .illegalOperation code text
  | .protocolError code text
  | .timeExpired code text
  | .interrupted _ code text
  | .noFileOrDirectory _ code text
  | .invalidArgument _ code text
  | .permissionDenied _ code text
  | .resourceExhausted _ code text
  | .inappropriateType _ code text
  | .noSuchThing _ code text =>
      some (positive code.toNat, text.capitalize)
  | .unexpectedEof | .userError _ => none
where
  /- A number, also where it was given with a minus. -/
  positive (code : Nat) : Nat :=
    if 2147483648 ≤ code then 4294967296 - code else code

/- An error of the system. -/
def hostError
    (error : IO.Error) : HostError :=
  match code? error with
  | some (2, _) => .notFound
  | some (20, _) => .notDirectory
  | some (21, _) => .isDirectory
  | some (36, _) => .nameTooLong
  | some (code, text) =>
      .other (text ++ " (os error " ++ toString code ++ ")")
  | none => .other (toString error)

/- Do something with a path that a system can have. -/
def attempt
    {α : Type}
    (path : Path)
    (action : String → IO α) : IO (Except HostError α) :=
  if path.contains (Char.ofNat 0) then
    pure (.error .zeroByte)
  else do
    try
      return .ok (← action (Text.str path))
    catch error =>
      return .error (hostError error)

------------------------------------------------------------
-- Files
------------------------------------------------------------

/- What is known of a file. -/
def metadata
    (path : String) : IO IO.FS.Metadata :=
  (System.mkFilePath [path]).metadata

/- Look at what a path leads to. -/
def info
    (path : String) : IO FileInfo := do
  let data ← metadata path
  return {
    isFile := data.type == .file
    isDirectory := data.type == .dir
    size := data.byteSize.toNat }

/- The bytes that can be read from a handle. -/
def readAll
    (handle : IO.FS.Handle) : IO (List UInt8) := do
  return (← handle.readBinToEnd).toList

/-
  Make the second file hold what the first one holds.  It is
  emptied before the first one is read.
-/
def copy
    (source target : String) : IO Unit := do
  let reader ← IO.FS.Handle.mk source .read
  let writer ← IO.FS.Handle.mk target .write
  writer.write (← reader.readBinToEnd)

/- List a directory. -/
def entries
    (path : String) : IO (List DirectoryEntry) := do
  let found ← (System.mkFilePath [path]).readDir
  found.toList.mapM fun entry => do
    let data ← entry.path.symlinkMetadata
    return {
      name := entry.fileName.toList
      isDirectory := data.type == .dir }

------------------------------------------------------------
-- Input
------------------------------------------------------------

/- Read a stream to its end. -/
partial def readStream
    (stream : IO.FS.Stream)
    (bytes : ByteArray) : IO ByteArray := do
  let next ← stream.read 65536
  if next.isEmpty then
    return bytes
  else
    readStream stream (bytes ++ next)

------------------------------------------------------------
-- Watching
------------------------------------------------------------

/- What tells whether a file changed. -/
def stamp
    (path : Path) : IO (Option (Int × Nat × Nat)) := do
  try
    let data ← metadata (Text.str path)
    return some
      (data.modified.sec, data.modified.nsec.toNat,
        data.byteSize.toNat)
  catch _ =>
    return none

/- Look at files again and again, until a signal arrives. -/
partial def poll
    {σ : Type}
    (isOver : BaseIO Bool)
    (change : σ → Nat → List Path → IO σ)
    (files : List (Path × Option (Int × Nat × Nat)))
    (state : σ) : IO σ := do
  if ← isOver then
    return state
  IO.sleep 100
  let stamps ← files.mapM fun (path, _) => stamp path
  let changed := (files.zip stamps).filterMap
    fun ((path, old), new) =>
      if new.isSome && new != old then some path else none
  let files := (files.map Prod.fst).zip stamps
  if changed.isEmpty then
    poll isOver change files state
  else
    let now ← IO.monoMsNow
    poll isOver change files (← change state now changed)

/- Watch files until the user interrupts the program. -/
def watch
    {σ : Type}
    (paths : List Path)
    (state : σ)
    (change : σ → Nat → List Path → IO σ) : IO σ := do
  let signal ← Std.Internal.UV.Signal.mk 2 false
  let arrival ← signal.next
  let stamps ← paths.mapM stamp
  let final ← poll (IO.hasFinished arrival.result?) change
    (paths.zip stamps) state
  signal.stop
  return final

------------------------------------------------------------
-- Hosts
------------------------------------------------------------

/- The directory of the user. -/
def home : IO (Option Path) := do
  let home ← IO.getEnv "HOME"
  return (home.filter fun path => path != "").map
    String.toList

/- The system that the program runs on. -/
instance host : Host IO where
  info path := attempt path info
  read path := attempt path fun path => do
    let handle ← IO.FS.Handle.mk path .read
    return .bytes (← readAll handle)
  write path data := attempt path fun path =>
    IO.FS.writeBinFile path (ByteArray.mk data.toArray)
  copy source path :=
    attempt (source ++ path) fun _ =>
      copy (Text.str source) (Text.str path)
  entries path := attempt path entries
  canonical path := attempt path fun path => do
    return (← IO.FS.realPath path).toString.toList
  workingDirectory := do
    try
      return some (← IO.currentDir).toString.toList
    catch _ =>
      return none
  homeDirectory := home
  environment name := IO.getEnv name
  isTerminal := do (← IO.getStdout).isTty
  input := attempt [] fun _ => do
    return (← readStream (← IO.getStdin) .empty).toList
  output text := do
    let stream ← IO.getStdout
    stream.putStr text
    stream.flush
  complain text := IO.eprint text
  clock := IO.monoNanosNow
  watch := watch

------------------------------------------------------------
-- Runs
------------------------------------------------------------

/- Say what is wrong with a command line. -/
def refuse
    (error : UsageError) : IO Unit :=
  if error.exitCode = 0 then
    IO.println error.text
  else
    IO.eprintln error.text

/- Run the program on a command line, up to the exit code. -/
def run
    (words : List String) : IO Nat := do
  match Options.parse (words.map String.toList) with
  | .error error =>
      refuse error
      return error.exitCode
  | .ok options =>
      match ← (Program.execute options : Task IO Nat).run with
      | .ok code => return code
      | .error failure =>
          IO.eprintln ("Error: " ++ failure.chain)
          return failure.exitCode

end Main

end NotifyScope

/- The program. -/
def main
    (words : List String) : IO UInt32 := do
  return (← NotifyScope.Main.run words).toUInt32
