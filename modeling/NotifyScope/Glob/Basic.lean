import NotifyScope.Text.Utf8

/-
  This file defines glob patterns and what they match.  The
  bytes of a name are matched, not its characters.  A match
  keeps, for every position of the name, whether the tokens
  so far can reach it.

  Key definitions include:
    * `Glob.Token`
    * `Glob.Reach`
    * `Glob.Token.advance`
    * `Glob.accepts`
-/

namespace NotifyScope

namespace Glob

------------------------------------------------------------
-- Tokens
------------------------------------------------------------

/- A piece of a pattern. -/
inductive Token where
  /- A character that stands for itself. -/
  | literal (c : Char)
  /- One byte. -/
  | any
  /- Any number of bytes. -/
  | many
  /- Nothing, or anything up to a separator. -/
  | directories
  /- A separator and all that follows. -/
  | contents
  /- A separator, or two with anything between them. -/
  | between
  /- One byte that is in one of the ranges, or in none. -/
  | choice (negated : Bool) (ranges : List (Char × Char))
  /- One of several patterns. -/
  | either (branches : List (List Token))

------------------------------------------------------------
-- Bytes
------------------------------------------------------------

/- The byte between the names of a path. -/
def separator : UInt8 := 47

/-
  Whether a byte is in a range of characters.  The range
  spans from the last byte of its first character to the
  first byte of its last one; the other bytes of both count
  for themselves.
-/
def inRange
    (byte : UInt8)
    (range : Char × Char) : Bool :=
  let low := String.utf8EncodeChar range.1
  let high := String.utf8EncodeChar range.2
  if range.1 = range.2 then
    low.contains byte
  else
    low.dropLast.contains byte ||
      (decide (low.getLastD 0 ≤ byte) &&
        decide (byte ≤ high.headD 0)) ||
      high.tail.contains byte

------------------------------------------------------------
-- Positions
------------------------------------------------------------

/-
  For every position of a name, the one behind its last byte
  included, whether it can be reached.
-/
abbrev Reach := List Bool

namespace Reach

/- Only the first position. -/
def start
    (bytes : List UInt8) : Reach :=
  true :: bytes.map fun _ => false

/- Whether the last position is reached. -/
def isDone
    (reach : Reach) : Bool :=
  reach.getLastD false

/- Reached by either of two ways. -/
def or
    (left right : Reach) : Reach :=
  List.zipWith Bool.or left right

/- Reached over one byte that is accepted. -/
def step
    (bytes : List UInt8)
    (accept : UInt8 → Bool)
    (reach : Reach) : Reach :=
  false ::
    List.zipWith (fun here byte => here && accept byte) reach
      bytes

/-
  Reached over accepted bytes, if `carry` tells whether the
  first position is.
-/
def spreadFrom
    (accept : UInt8 → Bool) :
    (carry : Bool) → List UInt8 → Reach → Reach
  | _, _, [] => []
  | carry, [], here :: _ => [carry || here]
  | carry, byte :: bytes, here :: rest =>
      let reached := carry || here
      reached ::
        spreadFrom accept (reached && accept byte) bytes rest

/- Reached over any number of accepted bytes. -/
def spread
    (bytes : List UInt8)
    (accept : UInt8 → Bool)
    (reach : Reach) : Reach :=
  spreadFrom accept false bytes reach

/- Reached over one separator. -/
def separate
    (bytes : List UInt8)
    (reach : Reach) : Reach :=
  step bytes (fun byte => byte == separator) reach

/- Reached over anything. -/
def skip
    (bytes : List UInt8)
    (reach : Reach) : Reach :=
  spread bytes (fun _ => true) reach

/- Reached over the bytes of a literal. -/
def literal
    (bytes : List UInt8)
    (text : List UInt8)
    (reach : Reach) : Reach :=
  text.foldl
    (fun reach byte => step bytes (fun b => b == byte) reach)
    reach

end Reach

------------------------------------------------------------
-- Empty Patterns
------------------------------------------------------------

mutual

/- Whether a token adds nothing to a pattern. -/
def Token.isVoid : Token → Bool
  | .either branches => areVoid branches
  | _ => false

/- Whether a list of tokens adds nothing to a pattern. -/
def isVoid : List Token → Bool
  | [] => true
  | token :: rest => token.isVoid && isVoid rest

/- Whether no branch adds anything to a pattern. -/
def areVoid : List (List Token) → Bool
  | [] => true
  | branch :: rest => isVoid branch && areVoid rest

end

------------------------------------------------------------
-- Matching
------------------------------------------------------------

/-
  Whether a byte may stand for a wildcard, which separators
  may not in the pattern of a path.
-/
def isWild
    (forPaths : Bool)
    (byte : UInt8) : Bool :=
  !(forPaths && byte == separator)

mutual

/- The positions that a token reaches. -/
def Token.advance
    (forPaths : Bool)
    (bytes : List UInt8) :
    Token → Reach → Reach
  | .literal c, reach =>
      reach.literal bytes (String.utf8EncodeChar c)
  | .any, reach => reach.step bytes (isWild forPaths)
  | .many, reach => reach.spread bytes (isWild forPaths)
  | .directories, reach =>
      reach.or
        ((reach.separate bytes).or
          ((reach.skip bytes).separate bytes))
  | .contents, reach => (reach.separate bytes).skip bytes
  | .between, reach =>
      let behind := reach.separate bytes
      behind.or ((behind.skip bytes).separate bytes)
  | .choice negated ranges, reach =>
      reach.step bytes fun byte =>
        ranges.any (inRange byte) != negated
  | .either branches, reach =>
      if areVoid branches then
        reach
      else
        advanceAny forPaths bytes branches reach

/- The positions that tokens reach one after the other. -/
def advanceAll
    (forPaths : Bool)
    (bytes : List UInt8) :
    List Token → Reach → Reach
  | [], reach => reach
  | token :: rest, reach =>
      advanceAll forPaths bytes rest
        (token.advance forPaths bytes reach)

/-
  The positions that some branch reaches.  A branch that adds
  nothing is none.
-/
def advanceAny
    (forPaths : Bool)
    (bytes : List UInt8) :
    List (List Token) → Reach → Reach
  | [], reach => reach.map fun _ => false
  | branch :: rest, reach =>
      let others := advanceAny forPaths bytes rest reach
      if isVoid branch then
        others
      else
        (advanceAll forPaths bytes branch reach).or others

end

/-
  Whether tokens match all bytes of a name.  A pattern that
  consists of two stars alone matches everything.
-/
def accepts
    (forPaths : Bool)
    (tokens : List Token)
    (name : List UInt8) : Bool :=
  match tokens with
  | [.directories] => true
  | _ =>
      (advanceAll forPaths name tokens
        (Reach.start name)).isDone

end Glob

end NotifyScope
