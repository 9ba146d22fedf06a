import NotifyScope.Text.Blank

/-
  This file defines the values of a report for programs and
  writes them as JSON over several lines.

  Key definitions include:
    * `JsonValue`
    * `JsonValue.quote`
    * `JsonValue.render`
-/

namespace NotifyScope

------------------------------------------------------------
-- Values
------------------------------------------------------------

/- A value of a report. -/
inductive JsonValue where
  | null
  | bool (value : Bool)
  | number (value : Nat)
  | string (value : Text)
  | object (fields : List (String × JsonValue))

namespace JsonValue

/- A string, or nothing. -/
def optional : Option String → JsonValue
  | none => null
  | some value => string value.toList

------------------------------------------------------------
-- Strings
------------------------------------------------------------

/- A character as it is written between quotes. -/
def escape
    (c : Char) : Text :=
  if c = '"' then
    ['\\', '"']
  else if c = '\\' then
    ['\\', '\\']
  else if c = '\n' then
    ['\\', 'n']
  else if c = '\r' then
    ['\\', 'r']
  else if c = '\t' then
    ['\\', 't']
  else if c.toNat = 8 then
    ['\\', 'b']
  else if c.toNat = 12 then
    ['\\', 'f']
  else if c.toNat < 0x20 then
    ['\\', 'u', '0', '0', Nat.digitChar (c.toNat / 16),
      Nat.digitChar (c.toNat % 16)]
  else
    [c]

/- A text between quotes. -/
def quote
    (text : Text) : Text :=
  '"' :: text.flatMap escape ++ ['"']

------------------------------------------------------------
-- Layout
------------------------------------------------------------

/- The start of a line at a depth of nesting. -/
def newLine
    (depth : Nat) : Text :=
  '\n' :: List.replicate (2 * depth) ' '

mutual

/- A value, with the fields of objects on lines of their own. -/
def render
    (depth : Nat) : JsonValue → Text
  | null => "null".toList
  | bool value => (toString value).toList
  | number value => (toString value).toList
  | string value => quote value
  | object [] => ['\x7b', '\x7d']
  | object fields =>
      '\x7b' ::
        List.intercalate [','] (renderFields depth fields) ++
        newLine depth ++ ['\x7d']

/- The fields of an object. -/
def renderFields
    (depth : Nat) : List (String × JsonValue) → List Text
  | [] => []
  | (key, value) :: rest =>
      (newLine (depth + 1) ++ quote key.toList ++
          ':' :: ' ' :: render (depth + 1) value) ::
        renderFields depth rest

end

end JsonValue

end NotifyScope
