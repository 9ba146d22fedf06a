import NotifyScope.Line

/-
  This file defines the source text of a file as lines, with
  what is needed to write them back.

  Key definitions include:
    * `LineEnding`
    * `Source`
    * `Source.ofText`
    * `Source.render`
-/

namespace NotifyScope

------------------------------------------------------------
-- Line Endings
------------------------------------------------------------

/- What separates the lines of a text. -/
inductive LineEnding where
  /- A newline. -/
  | lf
  /- A carriage return and a newline. -/
  | crLf
deriving DecidableEq, Repr

namespace LineEnding

/- The characters of a line ending. -/
def text : LineEnding → Text
  | lf => ['\n']
  | crLf => ['\r', '\n']

end LineEnding

------------------------------------------------------------
-- Splitting
------------------------------------------------------------

namespace Text

/- Put a character in front of the pieces of a text. -/
def consPiece
    (c : Char)
    (pieces : List Text) : List Text :=
  if c = '\n' then
    [] :: pieces
  else
    match pieces with
    | [] => [[c]]
    | piece :: rest => (c :: piece) :: rest

/- The pieces of a text between its newlines. -/
def splitLines
    (text : Text) : List Text :=
  text.foldr consPiece [[]]

/- Drop one carriage return at the end. -/
def dropReturn
    (text : Text) : Text :=
  if text.getLast? = some '\r' then text.dropLast else text

/- The newlines that follow a carriage return. -/
def countCrLf
    (text : Text) : Nat :=
  (text.zip text.tail).count ('\r', '\n')

/- Drop one newline at the end. -/
def dropNewline
    (text : Text) : Text :=
  if text.getLast? = some '\n' then text.dropLast else text

/-
  The lines of a text without their endings.  A newline at
  the end of the text ends the last line and starts none.
-/
def lines
    (text : Text) : Lines :=
  if text.isEmpty then
    []
  else
    (splitLines (dropNewline text)).map dropReturn

end Text

------------------------------------------------------------
-- Source Texts
------------------------------------------------------------

/-
  The lines of a source text, the ending that most of them
  have, and whether the last one has it too.
-/
structure Source where
  lines : Lines
  ending : LineEnding
  endsInNewline : Bool
deriving DecidableEq, Repr

namespace Source

/-
  Take a text apart.  The ending is the one of the majority,
  a newline alone if there are as many of each.
-/
def ofText
    (text : Text) : Source :=
  let crLf := Text.countCrLf text
  let lf := text.count '\n' - crLf
  { lines := Text.lines text
    ending := if lf < crLf then .crLf else .lf
    endsInNewline := text.getLast? = some '\n' }

/- Put the lines together again. -/
def render
    (source : Source) : Text :=
  let separator := source.ending.text
  List.intercalate separator source.lines ++
    if source.endsInNewline then separator else []

end Source

end NotifyScope
