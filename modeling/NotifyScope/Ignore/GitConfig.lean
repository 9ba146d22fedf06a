import NotifyScope.Text.Utf8

/-
  This file finds the name of the user's own ignore file in
  the configuration of Git.

  Key definitions include:
    * `GitConfig.value?`
    * `GitConfig.excludesFile?`
-/

namespace NotifyScope

namespace GitConfig

------------------------------------------------------------
-- Bytes
------------------------------------------------------------

/- Whether a byte is white space. -/
def isSpace
    (byte : UInt8) : Bool :=
  byte == 32 || (9 ≤ byte && byte ≤ 13)

/- Whether a byte is white space within a line. -/
def isLineSpace
    (byte : UInt8) : Bool :=
  isSpace byte && byte != 10

/- The lower-case letter for an upper-case one. -/
def lower
    (byte : UInt8) : UInt8 :=
  if 65 ≤ byte && byte ≤ 90 then byte + 32 else byte

/- The bytes of a word. -/
def word
    (text : String) : List UInt8 :=
  Utf8.encode text.toList

------------------------------------------------------------
-- Values
------------------------------------------------------------

/- The byte of a quotation mark. -/
def quote : UInt8 := 34

/- The byte of an equals sign. -/
def equals : UInt8 := 61

/- Whether the rest of a line is blank. -/
def endsLine
    (data : List UInt8) : Bool :=
  match data.dropWhile isLineSpace with
  | [] => true
  | byte :: _ => byte == 10

/- Whether a quotation mark is all that is left of a line. -/
def endsQuoted
    (data : List UInt8) : Bool :=
  match data.dropWhile isLineSpace with
  | [] => false
  | byte :: rest => byte == quote && endsLine rest

/-
  A value that starts here and is the last thing on its line,
  without a quotation mark behind it.
-/
def plainValue?
    (data : List UInt8) : Option (List UInt8) :=
  let run := data.takeWhile fun byte => !isSpace byte
  let rest := data.dropWhile fun byte => !isSpace byte
  if 2 ≤ run.length && run.getLast? == some quote &&
      endsLine rest then
    some run.dropLast
  else if !run.isEmpty &&
      (endsLine rest || endsQuoted rest) then
    some run
  else
    none

/- The value behind a key. -/
def value?
    (data : List UInt8) : Option (List UInt8) :=
  match data.dropWhile isSpace with
  | [] => none
  | sign :: rest =>
      if sign = equals then
        let start := rest.dropWhile isSpace
        match start with
        | [] => none
        | first :: more =>
            if first = quote then
              (plainValue? (more.dropWhile isSpace)).or
                (plainValue? start)
            else
              plainValue? start
      else
        none

/- The value of the key, if the line starts with it. -/
def lineValue?
    (data : List UInt8) : Option (List UInt8) :=
  let key := word "excludesfile"
  let start := data.dropWhile isSpace
  if (start.take key.length).map lower = key then
    value? (start.drop key.length)
  else
    none

/-
  The first value of the key.  `atStart` tells whether a line
  starts here.
-/
def search
    (atStart : Bool) : List UInt8 → Option (List UInt8)
  | [] => none
  | byte :: rest =>
      let found :=
        if atStart then lineValue? (byte :: rest) else none
      match found with
      | some value => some value
      | none => search (byte == 10) rest

/- Put the directory of the user in the place of tildes. -/
def expandTilde
    (home : Option Text)
    (text : Text) : Text :=
  match home with
  | none => text
  | some home =>
      text.flatMap fun c => if c = '~' then home else [c]

/- The name of the user's own ignore file. -/
def excludesFile?
    (home : Option Text)
    (data : List UInt8) : Option Text :=
  match search true data with
  | none => none
  | some value =>
      match Utf8.decode value with
      | .ok text => some (expandTilde home text)
      | .error _ => none

end GitConfig

end NotifyScope
