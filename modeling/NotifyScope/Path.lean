import NotifyScope.Text.Utf8

/-
  This file defines the paths of files as texts, and what can
  be said about them without looking at a disk.

  Key definitions include:
    * `Path`
    * `Path.components`
    * `Path.join`
    * `Path.parent?`
    * `Path.insertSorted`
-/

namespace NotifyScope

namespace Text

/- The parts of a text between a character. -/
def splitOn
    (separator : Char)
    (text : Text) : List Text :=
  text.foldr
    (fun c parts =>
      if c = separator then
        [] :: parts
      else
        (c :: parts.headD []) :: parts.tail)
    [[]]

/- Texts in the order of their characters. -/
def compare : Text → Text → Ordering
  | [], [] => .eq
  | [], _ :: _ => .lt
  | _ :: _, [] => .gt
  | a :: as, b :: bs =>
      (Ord.compare a.toNat b.toNat).then (compare as bs)

end Text

/- The text of a path. -/
abbrev Path := Text

namespace Path

------------------------------------------------------------
-- Components
------------------------------------------------------------

/- The name of the directory that holds it. -/
def here : Text := ['.']

/- The name of the directory above. -/
def above : Text := ['.', '.']

/- Whether a path starts at the root. -/
def isAbsolute
    (path : Path) : Bool :=
  path.head? == some '/'

/- What stands between the separators behind the root. -/
def segments
    (path : Path) : List Text :=
  Text.splitOn '/'
    (if isAbsolute path then path.tail else path)

/- A part of a path. -/
inductive Component where
  | root
  | current
  | parent
  | name (text : Text)
deriving DecidableEq, Repr

/-
  Whether the segment with a number says nothing.  A single
  dot says something only at the start of a relative path.
-/
def isTrivial
    (absolute : Bool)
    (number : Nat)
    (segment : Text) : Bool :=
  segment == [] ||
    (segment == here && (absolute || number != 0))

/- The component that a segment is. -/
def component
    (segment : Text) : Component :=
  if segment = here then
    .current
  else if segment = above then
    .parent
  else
    .name segment

/- The components of a path. -/
def components
    (path : Path) : List Component :=
  let absolute := isAbsolute path
  let parts :=
    ((segments path).zipIdx.filter fun (segment, i) =>
      !isTrivial absolute i segment).map fun (segment, _) =>
        component segment
  if absolute then .root :: parts else parts

------------------------------------------------------------
-- Paths from Paths
------------------------------------------------------------

/- A path as seen from a directory. -/
def join
    (base path : Path) : Path :=
  if isAbsolute path || base == [] then
    path
  else if base.getLast? = some '/' then
    base ++ path
  else
    base ++ '/' :: path

/- Drop segments that say nothing, the last one first. -/
def dropTrivial
    (absolute : Bool) : List Text → List Text
  | [] => []
  | segment :: rest =>
      if isTrivial absolute rest.length segment then
        dropTrivial absolute rest
      else
        segment :: rest

/- A path without its last component, if it has one. -/
def parent?
    (path : Path) : Option Path :=
  let absolute := isAbsolute path
  match dropTrivial absolute (segments path).reverse with
  | [] => none
  | _ :: rest =>
      let kept := (dropTrivial absolute rest).reverse
      let body := List.intercalate ['/'] kept
      some (if absolute then '/' :: body else body)

/- Each path without its last component, down to nothing. -/
def ancestors
    (path : Path) : List Path :=
  go path.length path
where
  go : Nat → Path → List Path
    | 0, path => [path]
    | fuel + 1, path =>
        match parent? path with
        | none => [path]
        | some above => path :: go fuel above

------------------------------------------------------------
-- Order
------------------------------------------------------------

/- Components in their order. -/
def Component.compare : Component → Component → Ordering
  | .root, .root => .eq
  | .root, _ => .lt
  | _, .root => .gt
  | .current, .current => .eq
  | .current, _ => .lt
  | _, .current => .gt
  | .parent, .parent => .eq
  | .parent, _ => .lt
  | _, .parent => .gt
  | .name left, .name right => Text.compare left right

/- Lists of components in their order. -/
def compareComponents :
    List Component → List Component → Ordering
  | [], [] => .eq
  | [], _ :: _ => .lt
  | _ :: _, [] => .gt
  | a :: as, b :: bs =>
      (a.compare b).then (compareComponents as bs)

/- Paths in the order of their components. -/
def compare
    (left right : Path) : Ordering :=
  compareComponents (components left) (components right)

/-
  Insert a path into a sorted list of different paths, unless
  one with the same components is there.
-/
def insertSorted
    (path : Path) : List Path → List Path
  | [] => [path]
  | first :: rest =>
      match compare path first with
      | .lt => path :: first :: rest
      | .eq => first :: rest
      | .gt => first :: insertSorted path rest

end Path

end NotifyScope
