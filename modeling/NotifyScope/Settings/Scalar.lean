import NotifyScope.Text.Blank

/-
  This file reads the smallest parts of a settings file in
  TOML: white space, comments, strings, keys and numbers.

  Key definitions include:
    * `Reader`
    * `Reader.endLine`
    * `Reader.string`
    * `Reader.key`
    * `Reader.number`
-/

namespace NotifyScope

/-
  A reader takes a value off the start of a text.  It fails
  where the text cannot go on this way.
-/
abbrev Reader (α : Type) := Text → Option (α × Text)

namespace Reader

------------------------------------------------------------
-- White Space
------------------------------------------------------------

/- Whether a character is white space within a line. -/
def isBlank
    (c : Char) : Bool :=
  c == ' ' || c == '\t'

/- Drop white space within a line. -/
def skipBlanks
    (text : Text) : Text :=
  text.dropWhile isBlank

/- Whether a character may stand in a comment. -/
def isPlain
    (c : Char) : Bool :=
  c == '\t' || (0x20 ≤ c.toNat && c.toNat != 0x7F)

/- Take a newline off the start of a text. -/
def newline? : Text → Option Text
  | '\n' :: rest => some rest
  | '\r' :: '\n' :: rest => some rest
  | _ => none

/- Drop a comment. -/
def skipComment
    (text : Text) : Text :=
  match text with
  | '#' :: rest => rest.dropWhile isPlain
  | _ => text

/- Take off all that may stand behind a value on its line. -/
def endLine
    (text : Text) : Option Text :=
  match skipComment (skipBlanks text) with
  | [] => some []
  | rest => newline? rest

/- Drop white space, comments, and newlines. -/
def skipLines :
    (fuel : Nat) → Text → Option Text
  | 0, text => some text
  | fuel + 1, text =>
      match skipBlanks text with
      | '#' :: rest =>
          (newline? (rest.dropWhile isPlain)).bind
            (skipLines fuel)
      | '\n' :: rest => skipLines fuel rest
      | '\r' :: rest =>
          (newline? ('\r' :: rest)).bind (skipLines fuel)
      | rest => some rest

/- Drop white space, comments, and newlines. -/
def skipSpace
    (text : Text) : Option Text :=
  skipLines text.length text

/- Take a character off the start of a text. -/
def expect
    (c : Char) : Text → Option Text
  | [] => none
  | first :: rest => if first = c then some rest else none

------------------------------------------------------------
-- Escapes
------------------------------------------------------------

/- The value of a hexadecimal digit. -/
def hexDigit?
    (c : Char) : Option Nat :=
  if '0' ≤ c ∧ c ≤ '9' then
    some (c.toNat - 48)
  else if 'a' ≤ c ∧ c ≤ 'f' then
    some (c.toNat - 87)
  else if 'A' ≤ c ∧ c ≤ 'F' then
    some (c.toNat - 55)
  else
    none

/- The number that digits write in a base. -/
def digitsValue
    (base : Nat)
    (digits : List Nat) : Nat :=
  digits.foldl (fun value digit => base * value + digit) 0

/- A character by its code in so many digits. -/
def codePoint
    (count : Nat) : Reader Char := fun text =>
  match (text.take count).mapM hexDigit? with
  | none => none
  | some digits =>
      let code := digitsValue 16 digits
      if digits.length = count ∧ code.isValidChar then
        some (Char.ofNat code, text.drop count)
      else
        none

/- The character that an escape behind its backslash means. -/
def escape : Reader Char
  | 'b' :: rest => some (Char.ofNat 8, rest)
  | 't' :: rest => some ('\t', rest)
  | 'n' :: rest => some ('\n', rest)
  | 'f' :: rest => some (Char.ofNat 12, rest)
  | 'r' :: rest => some ('\r', rest)
  | '"' :: rest => some ('"', rest)
  | '\\' :: rest => some ('\\', rest)
  | 'u' :: rest => codePoint 4 rest
  | 'U' :: rest => codePoint 8 rest
  | _ => none

------------------------------------------------------------
-- Strings
------------------------------------------------------------

/- The rest of a string on one line, behind its mark. -/
def basicFrom :
    (fuel : Nat) → (before : Text) → Reader Text
  | 0, _, _ => none
  | _ + 1, _, [] => none
  | fuel + 1, before, c :: rest =>
      if c = '"' then
        some (before.reverse, rest)
      else if c = '\\' then
        match escape rest with
        | none => none
        | some (c, rest) => basicFrom fuel (c :: before) rest
      else if isPlain c then
        basicFrom fuel (c :: before) rest
      else
        none

/- A string on one line, behind its mark. -/
def basic : Reader Text := fun text =>
  basicFrom (text.length + 1) [] text

/- A string without escapes on one line, behind its mark. -/
def literal : Reader Text := fun text =>
  let body := text.takeWhile fun c => c != '\''
  if body.all isPlain then
    match text.drop body.length with
    | [] => none
    | _ :: rest => some (body, rest)
  else
    none

/-
  The marks at the start of a text, as many as belong to a
  string of several lines, and whether the string ends with
  them.  Three marks end it, and up to two before them do
  not.
-/
def marks
    (mark : Char)
    (text : Text) : Text × Bool × Text :=
  let count := (text.takeWhile fun c => c == mark).length
  if count < 3 then
    (List.replicate count mark, false, text.drop count)
  else
    let inside := min (count - 3) 2
    (List.replicate inside mark, true,
      text.drop (inside + 3))

/- Drop what a backslash at the end of a line takes away. -/
def skipFolded
    (text : Text) : Option Text :=
  match newline? (skipBlanks text) with
  | none => none
  | some rest => some (go rest.length rest)
where
  go : Nat → Text → Text
    | 0, text => text
    | fuel + 1, text =>
        match newline? (skipBlanks text) with
        | none => skipBlanks text
        | some rest => go fuel rest

/-
  The rest of a string of several lines.  Newlines lose their
  carriage returns.
-/
def multilineFrom
    (mark : Char)
    (escapes : Bool) :
    (fuel : Nat) → (before : Text) → Reader Text
  | 0, _, _ => none
  | _ + 1, _, [] => none
  | fuel + 1, before, c :: rest =>
      if c = mark then
        let (inside, ends, rest) := marks mark (c :: rest)
        if ends then
          some (before.reverse ++ inside, rest)
        else
          multilineFrom mark escapes fuel (inside ++ before)
            rest
      else if c = '\\' ∧ escapes then
        match skipFolded rest, escape rest with
        | some rest, _ =>
            multilineFrom mark escapes fuel before rest
        | none, some (c, rest) =>
            multilineFrom mark escapes fuel (c :: before) rest
        | none, none => none
      else
        match newline? (c :: rest) with
        | some rest =>
            multilineFrom mark escapes fuel ('\n' :: before)
              rest
        | none =>
            if isPlain c then
              multilineFrom mark escapes fuel (c :: before)
                rest
            else
              none

/- A string of several lines.  A newline first is dropped. -/
def multiline
    (mark : Char)
    (escapes : Bool) : Reader Text := fun text =>
  let body := (newline? text).getD text
  multilineFrom mark escapes (body.length + 1) [] body

/- A string of one of the four kinds. -/
def string : Reader Text
  | '"' :: '"' :: '"' :: rest => multiline '"' true rest
  | '"' :: rest => basic rest
  | '\'' :: '\'' :: '\'' :: rest => multiline '\'' false rest
  | '\'' :: rest => literal rest
  | _ => none

------------------------------------------------------------
-- Keys
------------------------------------------------------------

/- Whether a character may stand in a key without marks. -/
def isKeyChar
    (c : Char) : Bool :=
  c.isAlphanum || c == '-' || c == '_'

/- A part of a key. -/
def simpleKey : Reader Text
  | '"' :: rest => basic rest
  | '\'' :: rest => literal rest
  | text =>
      let word := text.takeWhile isKeyChar
      if word.isEmpty then
        none
      else
        some (word, text.drop word.length)

/- The parts of a key, with dots between them. -/
def keyFrom :
    (fuel : Nat) → Reader (List Text)
  | 0, _ => none
  | fuel + 1, text =>
      match simpleKey (skipBlanks text) with
      | none => none
      | some (part, rest) =>
          match skipBlanks rest with
          | '.' :: rest =>
              match keyFrom fuel rest with
              | none => none
              | some (parts, rest) => some (part :: parts, rest)
          | rest => some ([part], rest)

/- How deep keys and values may be nested. -/
def nestingLimit : Nat := 80

/- A key with its parts. -/
def key : Reader (List Text) := fun text =>
  match keyFrom (text.length + 1) text with
  | none => none
  | some (parts, rest) =>
      if parts.length < nestingLimit then
        some (parts, rest)
      else
        none

------------------------------------------------------------
-- Numbers
------------------------------------------------------------

/- The value of a digit in a base. -/
def digit?
    (base : Nat)
    (c : Char) : Option Nat :=
  (hexDigit? c).filter fun digit => digit < base

/-
  The digits that follow a digit.  Between two digits there
  may be an underscore.
-/
def moreDigits
    (base : Nat) : Reader (List Nat)
  | [] => some ([], [])
  | c :: rest =>
      match digit? base c with
      | some digit =>
          match moreDigits base rest with
          | none => none
          | some (digits, rest) => some (digit :: digits, rest)
      | none =>
          match c, rest with
          | '_', next :: after =>
              match digit? base next with
              | none => none
              | some digit =>
                  match moreDigits base after with
                  | none => none
                  | some (digits, rest) =>
                      some (digit :: digits, rest)
          | '_', [] => none
          | _, _ => some ([], c :: rest)

/- One digit or more. -/
def digits
    (base : Nat) : Reader (List Nat)
  | [] => none
  | c :: rest =>
      match digit? base c with
      | none => none
      | some digit =>
          match moreDigits base rest with
          | none => none
          | some (digits, rest) => some (digit :: digits, rest)

/- A sign, and whether it is a minus. -/
def sign
    (text : Text) : Bool × Text :=
  match text with
  | '+' :: rest => (false, rest)
  | '-' :: rest => (true, rest)
  | _ => (false, text)

/- Decimal digits without a zero in front of others. -/
def decimal : Reader (List Nat)
  | '0' :: rest => some ([0], rest)
  | text => digits 10 text

/- A whole number of at most 64 bits. -/
def integer : Reader Int := fun text =>
  let ranged := fun (negative : Bool) (value : Nat) =>
    if negative then
      if value ≤ Nat.pow 2 63 then
        some (-(value : Int))
      else
        none
    else if value < Nat.pow 2 63 then
      some (value : Int)
    else
      none
  let inBase := fun (base : Nat) (rest : Text) =>
    match digits base rest with
    | none => none
    | some (digits, rest) =>
        (ranged false (digitsValue base digits)).map
          fun value => (value, rest)
  match text with
  | '0' :: 'x' :: rest => inBase 16 rest
  | '0' :: 'o' :: rest => inBase 8 rest
  | '0' :: 'b' :: rest => inBase 2 rest
  | _ =>
      let (negative, rest) := sign text
      match decimal rest with
      | none => none
      | some (digits, rest) =>
          (ranged negative (digitsValue 10 digits)).map
            fun value => (value, rest)

/- The part of a number behind its point. -/
def fraction : Reader (List Nat)
  | '.' :: rest => digits 10 rest
  | _ => none

/- The power of ten that a number is multiplied with. -/
def exponent : Reader Int
  | 'e' :: rest | 'E' :: rest =>
      let (negative, rest) := sign rest
      match digits 10 rest with
      | none => none
      | some (digits, rest) =>
          let value : Int := digitsValue 10 digits
          some (if negative then -value else value, rest)
  | _ => none

/-
  Whether a number is too large for floating point: not less
  than half a step above the largest one.
-/
def isHuge
    (mantissa : Nat)
    (power : Int) : Bool :=
  let bound := Nat.pow 2 1024 - Nat.pow 2 970
  let size := (Nat.toDigits 10 mantissa).length
  if mantissa = 0 then
    false
  else if 400 < power + size then
    true
  else if power + size < 300 then
    false
  else
    match power with
    | .ofNat n => bound ≤ mantissa * Nat.pow 10 n
    | .negSucc n => bound * Nat.pow 10 (n + 1) ≤ mantissa

/-
  Take a number with a point or an exponent off a text.  One
  that is too large is refused.
-/
def finite? (text : Text) : Option Text :=
  let (negative, rest) := sign text
  match decimal rest with
  | none => none
  | some (whole, rest) =>
      let (part, rest, hasPart) :=
        match fraction rest with
        | none => ([], rest, false)
        | some (part, rest) => (part, rest, true)
      let (power, rest, hasPower) :=
        match exponent rest with
        | none => ((0 : Int), rest, false)
        | some (power, rest) => (power, rest, true)
      let mantissa := digitsValue 10 (whole ++ part)
      if (hasPart || hasPower) &&
          (negative ||
            !isHuge mantissa (power - part.length)) then
        some rest
      else
        none

/- Take a number in floating point off a text. -/
def float?
    (text : Text) : Option Text :=
  match finite? text with
  | some rest => some rest
  | none =>
      match (sign text).2 with
      | 'i' :: 'n' :: 'f' :: rest => some rest
      | 'n' :: 'a' :: 'n' :: rest => some rest
      | _ => none

------------------------------------------------------------
-- Moments
------------------------------------------------------------

/- So many digits, if their number is in a range. -/
def field
    (count low high : Nat) : Reader Nat := fun text =>
  match (text.take count).mapM (digit? 10) with
  | none => none
  | some digits =>
      let value := digitsValue 10 digits
      if digits.length = count ∧ low ≤ value ∧
          value ≤ high then
        some (value, text.drop count)
      else
        none

/- The number of days of a month. -/
def daysOf
    (year month : Nat) : Nat :=
  if month = 2 then
    if year % 4 = 0 ∧ (year % 100 ≠ 0 ∨ year % 400 = 0) then
      29
    else
      28
  else if month = 4 ∨ month = 6 ∨ month = 9 ∨ month = 11 then
    30
  else
    31

/- Take a day off a text. -/
def day? (text : Text) : Option Text := do
  let (year, text) ← field 4 0 9999 text
  let text ← expect '-' text
  let (month, text) ← field 2 1 12 text
  let text ← expect '-' text
  let (_, text) ← field 2 1 (daysOf year month) text
  return text

/- Take a time of the day off a text. -/
def time? (text : Text) : Option Text := do
  let (_, text) ← field 2 0 23 text
  let text ← expect ':' text
  let (_, text) ← field 2 0 59 text
  let text ← expect ':' text
  let (_, text) ← field 2 0 60 text
  match text with
  | '.' :: rest =>
      let part := rest.takeWhile fun c => (digit? 10 c).isSome
      if part.isEmpty then
        return text
      else
        return rest.drop part.length
  | _ => return text

/- Take the distance to universal time off a text. -/
def offset? : Text → Option Text
  | 'Z' :: rest | 'z' :: rest => some rest
  | '+' :: rest | '-' :: rest => do
      let (_, text) ← field 2 0 23 rest
      let text ← expect ':' text
      let (_, text) ← field 2 0 59 text
      return text
  | _ => none

/- Take a day, a time, or both off a text. -/
def moment?
    (text : Text) : Option Text :=
  match day? text with
  | none => time? text
  | some rest =>
      match rest with
      | c :: after =>
          if c = 'T' ∨ c = 't' ∨ c = ' ' then
            match time? after with
            | none => some rest
            | some rest => some ((offset? rest).getD rest)
          else
            some rest
      | [] => some rest

end Reader

end NotifyScope
