import NotifyScope.Settings.Table

/-
  This file reads a settings file.

  Key definitions include:
    * `Reader.value`
    * `Draft`
    * `Entries.parse?`
-/

namespace NotifyScope

namespace Reader

------------------------------------------------------------
-- Containers
------------------------------------------------------------

/- The values of an array behind its bracket. -/
def elements
    (element : Reader Setting) :
    (fuel : Nat) → Reader (List Setting)
  | 0, _ => none
  | fuel + 1, text => do
      let text ← skipSpace text
      match text with
      | ']' :: rest => return ([], rest)
      | _ =>
          let (first, text) ← element text
          let text ← skipSpace text
          match text with
          | ']' :: rest => return ([first], rest)
          | ',' :: rest =>
              let (others, rest) ← elements element fuel rest
              return (first :: others, rest)
          | _ => none

/- A key with its value. -/
def pair
    (value : Reader Setting) :
    Reader (List Text × Setting) := fun text => do
  let (path, text) ← key text
  let text ← expect '=' text
  let (setting, text) ← value (skipBlanks text)
  return ((path, setting), skipBlanks text)

/- The pairs of a table behind its brace. -/
def pairs
    (value : Reader Setting) :
    (fuel : Nat) → Entries → Reader Entries
  | 0, _, _ => none
  | fuel + 1, entries, text => do
      let ((path, setting), text) ← pair value text
      let entries ← entries.insertAt path setting
      match text with
      | ',' :: rest => pairs value fuel entries rest
      | '\x7d' :: rest => return (entries, rest)
      | _ => none

/- A table between braces, behind the first one. -/
def inlineTable
    (value : Reader Setting) : Reader Setting := fun text =>
  match skipBlanks text with
  | '\x7d' :: rest => some (.table .inline [], rest)
  | rest => do
      let (entries, rest) ←
        pairs value (rest.length + 1) [] rest
      return (.table .inline entries, rest)

------------------------------------------------------------
-- Values
------------------------------------------------------------

/- A word that has a meaning. -/
def word
    (name : String)
    (setting : Setting) : Reader Setting := fun text =>
  if name.toList.isPrefixOf text then
    some (setting, text.drop name.length)
  else
    none

/- A number, or a moment in time. -/
def number : Reader Setting := fun text =>
  match moment? text with
  | some rest => some (.moment, rest)
  | none =>
      match float? text with
      | some rest => some (.float, rest)
      | none =>
          (integer text).map fun (value, rest) =>
            (.integer value, rest)

/- A value, with so many levels of arrays and tables. -/
def value
    (depth : Nat) : Reader Setting := fun text =>
  match text with
  | [] => none
  | c :: rest =>
      if c = '"' ∨ c = '\'' then
        (string text).map fun (value, rest) =>
          (.string value, rest)
      else if c = '[' then
        match depth with
        | 0 => none
        | depth + 1 =>
            (elements (value depth) (rest.length + 1)
              rest).map fun (values, rest) =>
                (.array values, rest)
      else if c = '\x7b' then
        match depth with
        | 0 => none
        | depth + 1 => inlineTable (value depth) rest
      else if c = 't' then
        word "true" (.boolean true) text
      else if c = 'f' then
        word "false" (.boolean false) text
      else
        number text

/- A value at the top of a document. -/
def topValue : Reader Setting :=
  value (nestingLimit - 1)

end Reader

------------------------------------------------------------
-- Documents
------------------------------------------------------------

/-
  A document that is being read: the tables that are done,
  and the one that keys go to at the moment.
-/
structure SettingsDraft where
  root : Entries := []
  /- The path in the last header, empty before any. -/
  path : List Text := []
  /- Whether the header has double brackets. -/
  isElement : Bool := false
  current : Entries := []

namespace SettingsDraft

/- Put the current table in its place. -/
def finish
    (draft : SettingsDraft) : Option Entries :=
  match draft.path.getLast? with
  | none => some draft.current
  | some key =>
      Entries.descend false
        (fun _ entries =>
          if draft.isElement then
            match entries.get? key with
            | none =>
                some (entries.set key (.tables [draft.current]))
            | some (.tables others) =>
                some
                  (entries.set key
                    (.tables (draft.current :: others)))
            | some _ => none
          else
            some
              (entries.set key (.table .header draft.current)))
        draft.path.dropLast .header draft.root

/-
  Start a table.  One that is there already must not have a
  header, and goes on with what it holds.
-/
def startTable
    (draft : SettingsDraft)
    (path : List Text) : Option SettingsDraft := do
  let root ← draft.finish
  let key ← path.getLast?
  let held ← Entries.descend false
    (fun _ entries =>
      match entries.get? key with
      | none => some entries
      | some (.table .implied _) => some entries
      | some _ => none)
    path.dropLast .header root
  let current := heldAt path held
  let rest ← Entries.descend false
    (fun _ entries => some (entries.remove key))
    path.dropLast .header held
  return { root := rest, path, isElement := false, current }
where
  /- The entries of the table at a path. -/
  heldAt : List Text → Entries → Entries
    | [], entries => entries
    | key :: rest, entries =>
        match entries.get? key with
        | some (.table _ inner) => heldAt rest inner
        | some (.tables (last :: _)) => heldAt rest last
        | _ => []

/- Start one more table under a header. -/
def startElement
    (draft : SettingsDraft)
    (path : List Text) : Option SettingsDraft := do
  let root ← draft.finish
  let key ← path.getLast?
  let root ← Entries.descend false
    (fun _ entries =>
      match entries.get? key with
      | none => some (entries.set key (.tables []))
      | some (.tables _) => some entries
      | some _ => none)
    path.dropLast .header root
  return { root, path, isElement := true, current := [] }

/- Read a header behind its first bracket. -/
def readHeader
    (draft : SettingsDraft)
    (text : Text) : Option (SettingsDraft × Text) :=
  match text with
  | '[' :: rest => do
      let (path, rest) ← Reader.key rest
      let rest ← Reader.expect ']' rest
      let rest ← Reader.expect ']' rest
      let rest ← Reader.endLine rest
      let next ← draft.startElement path
      return (next, rest)
  | _ => do
      let (path, rest) ← Reader.key text
      let rest ← Reader.expect ']' rest
      let rest ← Reader.endLine rest
      let next ← draft.startTable path
      return (next, rest)

/- Read a key with its value up to the end of the line. -/
def readPair
    (draft : SettingsDraft)
    (text : Text) : Option (SettingsDraft × Text) := do
  let ((path, setting), rest) ←
    Reader.pair Reader.topValue text
  let rest ← Reader.endLine rest
  let current ← draft.current.insertAt path setting
  return ({ draft with current }, rest)

/- Read the lines of a document. -/
def readLines :
    (fuel : Nat) → SettingsDraft → Text →
      Option SettingsDraft
  | 0, _, _ => none
  | fuel + 1, draft, text =>
      match Reader.skipBlanks text with
      | [] => some draft
      | '#' :: rest =>
          (Reader.endLine ('#' :: rest)).bind
            (readLines fuel draft)
      | '[' :: rest =>
          match draft.readHeader rest with
          | none => none
          | some (draft, rest) => readLines fuel draft rest
      | c :: rest =>
          match Reader.newline? (c :: rest) with
          | some rest => readLines fuel draft rest
          | none =>
              match draft.readPair (c :: rest) with
              | none => none
              | some (draft, rest) =>
                  readLines fuel draft rest

end SettingsDraft

namespace Entries

/- Drop a byte order mark. -/
def dropMark : Text → Text
  | [] => []
  | c :: rest =>
      if c.toNat = 0xFEFF then rest else c :: rest

/- Read a document. -/
def parse?
    (text : Text) : Option Entries := do
  let text := dropMark text
  let draft ←
    SettingsDraft.readLines (text.length + 1) {} text
  draft.finish

end Entries

end NotifyScope
