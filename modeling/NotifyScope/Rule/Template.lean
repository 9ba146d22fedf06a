import NotifyScope.Text.Blank

/-
  This file defines declaration templates: texts in which a
  placeholder stands for the name of the declared method, and
  any run of white space for any other.

  Key definitions include:
    * `Template`
    * `Template.ofText?`
    * `Template.pieces`
    * `Template.dropPieces?`
    * `Template.opensBlock`
    * `Template.declaredName?`
-/

namespace NotifyScope

------------------------------------------------------------
-- Templates
------------------------------------------------------------

namespace Text

/- Cut a text at the first occurrence of another. -/
def cut?
    (separator : Text) :
    Text → Option (Text × Text)
  | [] => none
  | c :: rest =>
      if separator.isPrefixOf (c :: rest) then
        some ([], (c :: rest).drop separator.length)
      else
        (cut? separator rest).map fun (before, after) =>
          (c :: before, after)

end Text

/- What a declaration holds before and after the name. -/
structure Template where
  before : Text
  after : Text
deriving DecidableEq, Repr

namespace Template

/- What stands for the name of the method. -/
def placeholder : Text :=
  "\x7bname\x7d".toList

/- A text is a template if it has one placeholder. -/
def ofText?
    (text : Text) : Option Template :=
  match Text.cut? placeholder text with
  | none => none
  | some (before, after) =>
      if (Text.cut? placeholder after).isSome then
        none
      else
        some { before, after }

------------------------------------------------------------
-- Pieces
------------------------------------------------------------

/- The pieces that the parts of a template are made of. -/
inductive Piece where
  /- One or more characters of white space. -/
  | gap
  /- A character that stands for itself. -/
  | char (c : Char)
deriving DecidableEq, Repr

/- The pieces of a part, with one gap for each run. -/
def pieces : Text → List Piece
  | [] => []
  | c :: rest =>
      if Text.isBlank c then
        match pieces rest with
        | .gap :: tail => .gap :: tail
        | tail => .gap :: tail
      else
        .char c :: pieces rest

/-
  What remains of a text behind the pieces of a part.  A gap
  takes all the white space there is, since no piece behind
  it starts with any.
-/
def dropPieces? :
    List Piece → Text → Option Text
  | [], text => some text
  | .char _ :: _, [] => none
  | .char c :: rest, d :: text =>
      if c = d then dropPieces? rest text else none
  | .gap :: rest, text =>
      if (Text.leading text).isEmpty then
        none
      else
        dropPieces? rest (Text.trimLeft text)

/-
  What ends a declaration line: an opening brace between
  white space.
-/
def opensBlock
    (text : Text) : Bool :=
  match Text.trimLeft text with
  | [] => false
  | c :: rest => c == '\x7b' && Text.allBlank rest

------------------------------------------------------------
-- Declarations
------------------------------------------------------------

/-
  Whether a text that is cut off in front of the method name
  goes on with `name` and the rest of the declaration.
-/
def continuesWith
    (template : Template)
    (name text : Text) : Bool :=
  name.isPrefixOf text &&
    ((dropPieces? (pieces template.after)
      (text.drop name.length)).any opensBlock)

/-
  The first of some names that a line declares.  The line may
  be indented by spaces and tabs.
-/
def declaredName?
    (template : Template)
    (names : List Text)
    (line : Text) : Option Text :=
  let body := line.dropWhile fun c => c == ' ' || c == '\t'
  (dropPieces? (pieces template.before) body).bind fun rest =>
    names.find? fun name => template.continuesWith name rest

end Template

end NotifyScope
