import NotifyScope.Glob.Basic

/-
  This file reads glob patterns.

  Key definitions include:
    * `GlobError`
    * `Glob.Dialect`
    * `Glob.readChoice`
    * `Glob.read`
    * `Glob`
    * `Glob.parse`
-/

namespace NotifyScope

------------------------------------------------------------
-- Errors
------------------------------------------------------------

/- What is wrong with a pattern. -/
inductive GlobError where
  /- A class of characters has no end. -/
  | unclosedClass
  /- A range ends before it starts. -/
  | invalidRange (low high : Char)
  /- A group ends that did not start. -/
  | unopenedGroup
  /- A group does not end. -/
  | unclosedGroup
  /- A backslash at the end. -/
  | danglingEscape
deriving DecidableEq, Repr

namespace GlobError

/- What to say about an error. -/
def reason : GlobError → String
  | unclosedClass =>
      "unclosed character class; missing ']'"
  | invalidRange low high =>
      "invalid range; '" ++ low.toString ++ "' > '" ++
        high.toString ++ "'"
  | unopenedGroup =>
      "unopened alternate group; missing '\x7b' " ++
        "(maybe escape '\x7d' with '[\x7d]'?)"
  | unclosedGroup =>
      "unclosed alternate group; missing '\x7d' " ++
        "(maybe escape '\x7b' with '[\x7b]'?)"
  | danglingEscape => "dangling '\\'"

/- What to say about an error in a pattern. -/
def message
    (error : GlobError)
    (pattern : Text) : String :=
  "error parsing glob '" ++ Text.str pattern ++ "': " ++
    error.reason

end GlobError

namespace Glob

------------------------------------------------------------
-- Classes
------------------------------------------------------------

/- A class of characters that was read. -/
structure Choice where
  negated : Bool
  ranges : List (Char × Char)
  /- How many characters it took. -/
  size : Nat
deriving DecidableEq, Repr

/- End the last range, which must not end before it starts. -/
def extendRange
    (c : Char) :
    List (Char × Char) →
      Except GlobError (List (Char × Char))
  | [] => .ok [(c, c)]
  | (low, _) :: rest =>
      if c < low then
        .error (.invalidRange low c)
      else
        .ok ((low, c) :: rest)

/-
  Read a class behind its bracket.  The ranges come last one
  first.  A bracket at the start is a character like others,
  and so is a minus at either end.  The result is nothing if
  the class has no end.
-/
def readRanges
    (isFirst inRange : Bool)
    (ranges : List (Char × Char))
    (size : Nat) :
    Text →
      Except GlobError (Option (List (Char × Char) × Nat))
  | [] => .ok none
  | c :: rest =>
      if c = ']' ∧ isFirst = false then
        let ranges :=
          if inRange then ('-', '-') :: ranges else ranges
        .ok (some (ranges.reverse, size + 1))
      else if c = '-' ∧ isFirst = false ∧
          inRange = false then
        readRanges false true ranges (size + 1) rest
      else if inRange then
        match extendRange c ranges with
        | .error error => .error error
        | .ok ranges =>
            readRanges false false ranges (size + 1) rest
      else
        readRanges false false ((c, c) :: ranges) (size + 1)
          rest

/- Read a class with the sign that negates it. -/
def readChoice
    (text : Text) : Except GlobError (Option Choice) :=
  let negated :=
    text.head? == some '!' || text.head? == some '^'
  let signs := if negated then 1 else 0
  match readRanges true false [] signs
      (text.drop signs) with
  | .error error => .error error
  | .ok none => .ok none
  | .ok (some (ranges, size)) =>
      .ok (some { negated, ranges, size })

------------------------------------------------------------
-- Branches
------------------------------------------------------------

/-
  The part of a pattern that was read: the open branches, the
  innermost first and each last token first, and for every
  open group how many branches there were before it.
-/
structure Draft where
  root : List Token := []
  branches : List (List Token) := []
  groups : List Nat := []
  /- Brackets are characters like others from here on. -/
  plainBrackets : Bool := false

namespace Draft

/- The tokens of the current branch. -/
def current
    (draft : Draft) : List Token :=
  draft.branches.headD draft.root

/- Exchange the tokens of the current branch. -/
def setCurrent
    (draft : Draft)
    (tokens : List Token) : Draft :=
  match draft.branches with
  | [] => { draft with root := tokens }
  | _ :: rest => { draft with branches := tokens :: rest }

/- Add a token to the current branch. -/
def push
    (draft : Draft)
    (token : Token) : Draft :=
  draft.setCurrent (token :: draft.current)

/- Start a group. -/
def openGroup
    (draft : Draft) : Draft :=
  { draft with
    branches := [] :: draft.branches
    groups := draft.branches.length :: draft.groups }

/- End the innermost group. -/
def closeGroup
    (draft : Draft) : Except GlobError Draft :=
  match draft.groups with
  | [] => .error .unopenedGroup
  | outer :: groups =>
      let count := draft.branches.length - outer
      let group :=
        (draft.branches.take count).reverse.map List.reverse
      let rest :=
        { draft with
          branches := draft.branches.drop count
          groups }
      .ok (rest.push (.either group))

/- Start the next branch of a group. -/
def comma
    (draft : Draft) : Draft :=
  if draft.groups.isEmpty then
    draft.push (.literal ',')
  else
    { draft with branches := [] :: draft.branches }

/-
  Add two stars with `before` in front of them and `after`
  behind them, and tell whether they take the separator that
  follows.  They only stand for directories where nothing but
  separators, or the bounds of a branch, are next to them.
-/
def doubleStar
    (before after : Option Char)
    (draft : Draft) : Draft × Bool :=
  let plain := (draft.push .many).push .many
  let inGroup := !draft.branches.isEmpty
  if draft.current.isEmpty then
    if after = none ∨ after = some '/' then
      (draft.push .directories, after.isSome)
    else
      (plain, false)
  else if before ≠ some '/' ∧
      ¬ (inGroup ∧
        (before = some ',' ∨ before = some '\x7b')) then
    (plain, false)
  else
    let isSuffix :=
      after = none ∨
        (inGroup ∧ (after = some ',' ∨ after = some '\x7d'))
    if isSuffix ∨ after = some '/' then
      let rest := draft.current.tail
      let token :=
        match draft.current with
        | .directories :: _ => .directories
        | .contents :: _ => .contents
        | _ =>
            if isSuffix then
              Token.contents
            else
              Token.between
      (draft.setCurrent (token :: rest), !decide isSuffix)
    else
      (plain, false)

end Draft

------------------------------------------------------------
-- Patterns
------------------------------------------------------------

/- How patterns are read and matched. -/
structure Dialect where
  /- Wildcards do not match separators. -/
  forPaths : Bool
  /- A class without an end is no class. -/
  unclosedClasses : Bool
deriving DecidableEq, Repr

/-
  Read a pattern behind the character `before`.  The first
  `skip` characters were read with the last token.
-/
def read
    (dialect : Dialect) :
    (before : Option Char) → (skip : Nat) → Draft → Text →
      Except GlobError Draft
  | _, _, draft, [] => .ok draft
  | _, skip + 1, draft, c :: rest =>
      read dialect (some c) skip draft rest
  | before, 0, draft, c :: rest =>
      let next := fun draft skip =>
        read dialect (some c) skip draft rest
      if c = '?' then
        next (draft.push .any) 0
      else if c = '*' then
        if rest.head? = some '*' then
          let (draft, takesSeparator) :=
            draft.doubleStar before rest.tail.head?
          next draft (if takesSeparator then 2 else 1)
        else
          next (draft.push .many) 0
      else if c = '[' ∧ draft.plainBrackets = false then
        match readChoice rest with
        | .error error => .error error
        | .ok (some choice) =>
            next
              (draft.push
                (.choice choice.negated choice.ranges))
              choice.size
        | .ok none =>
            if dialect.unclosedClasses then
              let plain :=
                { draft with plainBrackets := true }
              next (plain.push (.literal '[')) 0
            else
              .error .unclosedClass
      else if c = '\x7b' then
        next draft.openGroup 0
      else if c = '\x7d' then
        match draft.closeGroup with
        | .error error => .error error
        | .ok draft => next draft 0
      else if c = ',' then
        next draft.comma 0
      else if c = '\\' then
        match rest.head? with
        | none => .error .danglingEscape
        | some escaped => next (draft.push (.literal escaped)) 1
      else
        next (draft.push (.literal c)) 0

end Glob

/- A pattern and how it is matched. -/
structure Glob where
  dialect : Glob.Dialect
  tokens : List Glob.Token

namespace Glob

/- Read a whole pattern. -/
def parse
    (dialect : Dialect)
    (pattern : Text) : Except GlobError Glob :=
  match read dialect none 0 {} pattern with
  | .error error => .error error
  | .ok draft =>
      if draft.branches.isEmpty then
        .ok { dialect, tokens := draft.root.reverse }
      else
        .error .unclosedGroup

/- Whether a pattern matches a name. -/
def covers
    (glob : Glob)
    (name : Text) : Bool :=
  accepts glob.dialect.forPaths glob.tokens
    (Utf8.encode name)

end Glob

end NotifyScope
