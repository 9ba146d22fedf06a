import NotifyScope.Host.Disk

/-
  This file defines a system in memory: a disk, a current
  directory, and what was written to the console.

  Key definitions include:
    * `World`
    * `InMemory`
-/

namespace NotifyScope

------------------------------------------------------------
-- Worlds
------------------------------------------------------------

/- The state of a system in memory. -/
structure World where
  disk : Disk := {}
  /- Where relative paths start. -/
  directory : Location := []
  home : Option Path := none
  input : List UInt8 := []
  output : String := ""
  complaints : String := ""

/- A program that runs on a system in memory. -/
abbrev InMemory := StateM World

namespace InMemory

/- Ask the disk for something. -/
def ask
    {α : Type}
    (question :
      Disk → Location → Except HostError α) :
    InMemory (Except HostError α) := do
  let world ← get
  pure (question world.disk world.directory)

/- Change the disk, if nothing speaks against it. -/
def change
    (edit : Disk → Location → Except HostError Disk) :
    InMemory (Except HostError Unit) := do
  let world ← get
  match edit world.disk world.directory with
  | .error error => pure (.error error)
  | .ok disk =>
      set { world with disk }
      pure (.ok ())

end InMemory

/- Time stands still in memory, and no file changes. -/
instance : Host InMemory where
  info path :=
    InMemory.ask fun disk base => disk.info base path
  read path :=
    InMemory.ask fun disk base => disk.read base path
  write path data :=
    InMemory.change fun disk base =>
      disk.write base path data
  copy source path :=
    InMemory.change fun disk base =>
      disk.copy base source path
  entries path :=
    InMemory.ask fun disk base => disk.entries base path
  canonical path :=
    InMemory.ask fun disk base => disk.canonical base path
  workingDirectory := do
    return some (← get).directory.path
  homeDirectory := do return (← get).home
  environment _ := pure none
  isTerminal := pure false
  input := do return .ok (← get).input
  output text := modify fun world =>
    { world with output := world.output ++ text }
  complain text := modify fun world =>
    { world with complaints := world.complaints ++ text }
  clock := pure 0
  watch _ state _ := pure state

end NotifyScope
