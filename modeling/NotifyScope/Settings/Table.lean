import NotifyScope.Settings.Scalar

/-
  This file defines the values of a settings file and how a
  table grows while the file is read.

  Key definitions include:
    * `Setting`
    * `Entries`
    * `Entries.descend`
    * `Entries.insertAt`
-/

namespace NotifyScope

------------------------------------------------------------
-- Values
------------------------------------------------------------

/- How a table came about. -/
inductive Origin where
  /- It has a header. -/
  | header
  /- It is on the way to a table with a header. -/
  | implied
  /- It is on the way of a key with dots. -/
  | dotted
  /- It is written between braces. -/
  | inline
deriving DecidableEq, Repr

/- A value.  Numbers that no setting has are left out. -/
inductive Setting where
  | string (value : Text)
  | integer (value : Int)
  | boolean (value : Bool)
  | float
  | moment
  | array (values : List Setting)
  | table (origin : Origin) (entries : List (Text × Setting))
  /- Tables under one header, the last one first. -/
  | tables (elements : List (List (Text × Setting)))

/- The keys of a table and their values. -/
abbrev Entries := List (Text × Setting)

namespace Entries

/- The value of a key. -/
def get?
    (entries : Entries)
    (key : Text) : Option Setting :=
  entries.lookup key

/- Give a key a value. -/
def set
    (entries : Entries)
    (key : Text)
    (value : Setting) : Entries :=
  if (get? entries key).isSome then
    entries.map fun (other, old) =>
      if other = key then (other, value) else (other, old)
  else
    entries ++ [(key, value)]

/- Take a key out. -/
def remove
    (entries : Entries)
    (key : Text) : Entries :=
  entries.filter fun (other, _) => other ≠ key

------------------------------------------------------------
-- Paths
------------------------------------------------------------

/-
  Change the table at the end of a path.  Tables that are not
  there come about on the way, as parts of a key with dots or
  of a header.  Keys with dots cannot lead into a table that
  has a header, nothing leads into one between braces, and of
  several tables under one header the last one is meant.
-/
def descend
    (dotted : Bool)
    (change : Origin → Entries → Option Entries) :
    List Text → Origin → Entries → Option Entries
  | [], origin, entries => change origin entries
  | key :: rest, _, entries =>
      match get? entries key with
      | none =>
          let origin := if dotted then .dotted else .implied
          (descend dotted change rest origin []).map
            fun inner => set entries key (.table origin inner)
      | some (.table origin inner) =>
          if origin = .inline ∨
              (dotted ∧ origin = .header) then
            none
          else
            (descend dotted change rest origin inner).map
              fun inner =>
                set entries key (.table origin inner)
      | some (.tables (last :: others)) =>
          (descend dotted change rest .header last).map
            fun last =>
              set entries key (.tables (last :: others))
      | some _ => none

/-
  Insert a value under a new key.  The path of a key with
  dots has to end in a table that such a key made.
-/
def insertAt
    (entries : Entries)
    (path : List Text)
    (value : Setting) : Option Entries :=
  match path.getLast? with
  | none => none
  | some key =>
      descend true
        (fun origin inner =>
          if (path.length = 1 ∨ origin = .dotted) ∧
              (get? inner key).isNone then
            some (inner ++ [(key, value)])
          else
            none)
        path.dropLast .header entries

end Entries

end NotifyScope
