import NotifyScope.Host.Basic

/-
  This file defines a disk in memory: directories and files
  at locations below the root, without links.

  Key definitions include:
    * `Location`
    * `Disk`
    * `Disk.resolve`
    * `Disk.read`
    * `Disk.write`
    * `Disk.copy`
-/

namespace NotifyScope

------------------------------------------------------------
-- Disks
------------------------------------------------------------

/- The names that lead from the root to a file. -/
abbrev Location := List Text

namespace Location

/- The absolute path of a location. -/
def path
    (location : Location) : Path :=
  '/' :: List.intercalate ['/'] location

end Location

/- What is at a location. -/
inductive Node where
  | directory
  | file (content : Content)
deriving DecidableEq, Repr

/- What is at the locations of a disk. -/
structure Disk where
  nodes : List (Location × Node) := []
deriving DecidableEq, Repr

namespace Disk

/- What is at a location.  The root is a directory. -/
def get?
    (disk : Disk)
    (location : Location) : Option Node :=
  if location = [] then
    some .directory
  else
    disk.nodes.lookup location

/- Replace what is at a location. -/
def set
    (disk : Disk)
    (location : Location)
    (node : Node) : Disk :=
  if (disk.nodes.lookup location).isSome then
    { nodes := disk.nodes.map fun (other, old) =>
        if other = location then
          (other, node)
        else
          (other, old) }
  else
    { nodes := disk.nodes ++ [(location, node)] }

------------------------------------------------------------
-- Resolution
------------------------------------------------------------

/- The number of bytes that a text takes. -/
def byteLength
    (text : Text) : Nat :=
  (Utf8.encode text).length

/-
  Follow the segments of a path.  Everything on the way has
  to be a directory, also in front of a segment that says
  nothing.
-/
def follow
    (disk : Disk) :
    Location → List Text → Except HostError Location
  | location, [] => .ok location
  | location, segment :: rest =>
      match disk.get? location with
      | none => .error .notFound
      | some (.file _) => .error .notDirectory
      | some .directory =>
          if segment = [] ∨ segment = Path.here then
            follow disk location rest
          else if segment = Path.above then
            follow disk location.dropLast rest
          else if 255 < byteLength segment then
            .error .nameTooLong
          else
            follow disk (location ++ [segment]) rest

/- The location that a path leads to, from a directory. -/
def resolve
    (disk : Disk)
    (base : Location)
    (path : Path) : Except HostError Location :=
  if path = [] then
    .error .notFound
  else if path.contains (Char.ofNat 0) then
    .error .zeroByte
  else if 4096 ≤ byteLength path then
    .error .nameTooLong
  else
    disk.follow (if Path.isAbsolute path then [] else base)
      (Path.segments path)

/- What a path leads to, with its location. -/
def find
    (disk : Disk)
    (base : Location)
    (path : Path) : Except HostError (Location × Node) :=
  match disk.resolve base path with
  | .error error => .error error
  | .ok location =>
      match disk.get? location with
      | none => .error .notFound
      | some node => .ok (location, node)

------------------------------------------------------------
-- Operations
------------------------------------------------------------

/- Look at what a path leads to. -/
def info
    (disk : Disk)
    (base : Location)
    (path : Path) : Except HostError FileInfo :=
  match disk.find base path with
  | .error error => .error error
  | .ok (_, .directory) =>
      .ok { isFile := false, isDirectory := true, size := 0 }
  | .ok (_, .file content) =>
      .ok
        { isFile := true
          isDirectory := false
          size := content.size }

/- Read a file. -/
def read
    (disk : Disk)
    (base : Location)
    (path : Path) : Except HostError Content :=
  match disk.find base path with
  | .error error => .error error
  | .ok (_, .directory) => .error .isDirectory
  | .ok (_, .file content) => .ok content

/- The location of a file that can be written. -/
def target
    (disk : Disk)
    (base : Location)
    (path : Path) : Except HostError Location :=
  match disk.resolve base path with
  | .error error =>
      if error = .notFound ∧ path.getLast? = some '/' ∧
          (disk.resolve base path.dropLast).isOk then
        .error .isDirectory
      else
        .error error
  | .ok location =>
      match disk.get? location with
      | some .directory => .error .isDirectory
      | _ => .ok location

/- Make a file hold the bytes. -/
def write
    (disk : Disk)
    (base : Location)
    (path : Path)
    (data : List UInt8) : Except HostError Disk :=
  match disk.target base path with
  | .error error => .error error
  | .ok location =>
      .ok (disk.set location (.file (.bytes data)))

/-
  Make a file hold what another one holds.  The target is
  emptied before the source is read, so that a file that is
  copied onto itself ends up empty.
-/
def copy
    (disk : Disk)
    (base : Location)
    (source path : Path) : Except HostError Disk :=
  match disk.read base source with
  | .error error => .error error
  | .ok _ =>
      match disk.target base path with
      | .error error => .error error
      | .ok location =>
          let emptied :=
            disk.set location (.file (.bytes []))
          match emptied.read base source with
          | .error error => .error error
          | .ok content =>
              .ok (emptied.set location (.file content))

/- The names in a directory. -/
def entries
    (disk : Disk)
    (base : Location)
    (path : Path) :
    Except HostError (List DirectoryEntry) :=
  match disk.find base path with
  | .error error => .error error
  | .ok (_, .file _) => .error .notDirectory
  | .ok (location, .directory) =>
      .ok
        (disk.nodes.filterMap fun (other, node) =>
          match other.getLast? with
          | none => none
          | some name =>
              if other = location ++ [name] then
                some
                  { name, isDirectory := node = .directory }
              else
                none)

/- The absolute path of what a path leads to. -/
def canonical
    (disk : Disk)
    (base : Location)
    (path : Path) : Except HostError Path :=
  match disk.find base path with
  | .error error => .error error
  | .ok (location, _) => .ok location.path

end Disk

end NotifyScope
