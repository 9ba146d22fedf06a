import NotifyScope.Text.Blank

/-
  This file decodes and encodes UTF-8.

  Key definitions include:
    * `Utf8.char?`
    * `Utf8.decode`
    * `Utf8.encode`
-/

namespace NotifyScope

namespace Utf8

------------------------------------------------------------
-- Sequences
------------------------------------------------------------

/- Whether a byte continues a sequence of several bytes. -/
def isContinuation
    (byte : UInt8) : Bool :=
  byte.toNat / 64 == 2

/- The bits that a continuation contributes. -/
def payload
    (byte : UInt8) : Nat :=
  byte.toNat % 64

/- The character of two bytes, if they are well formed. -/
def pair?
    (a b : UInt8) : Option Char :=
  let code := a.toNat % 32 * 64 + payload b
  if a.toNat / 32 = 6 ∧ isContinuation b ∧ 0x80 ≤ code then
    some (Char.ofNat code)
  else
    none

/-
  The character of three bytes, if they are well formed.  No
  character has the code of a surrogate.
-/
def triple?
    (a b c : UInt8) : Option Char :=
  let code :=
    (a.toNat % 16 * 64 + payload b) * 64 + payload c
  if a.toNat / 16 = 14 ∧ isContinuation b ∧
      isContinuation c ∧ 0x800 ≤ code ∧
      ¬ (0xD800 ≤ code ∧ code < 0xE000) then
    some (Char.ofNat code)
  else
    none

/- The character of four bytes, if they are well formed. -/
def quadruple?
    (a b c d : UInt8) : Option Char :=
  let code :=
    ((a.toNat % 8 * 64 + payload b) * 64 + payload c) * 64 +
      payload d
  if a.toNat / 8 = 30 ∧ isContinuation b ∧
      isContinuation c ∧ isContinuation d ∧
      0x10000 ≤ code ∧ code < 0x110000 then
    some (Char.ofNat code)
  else
    none

/-
  The first character of a list of bytes and how many bytes
  it takes.  At most one of the four forms fits.
-/
def char? : List UInt8 → Option (Char × Nat)
  | [] => none
  | a :: rest =>
      if a.toNat < 0x80 then
        some (Char.ofNat a.toNat, 1)
      else
        match rest with
        | [] => none
        | b :: rest =>
            match pair? a b, rest with
            | some char, _ => some (char, 2)
            | none, [] => none
            | none, c :: rest =>
                match triple? a b c, rest with
                | some char, _ => some (char, 3)
                | none, [] => none
                | none, d :: _ =>
                    (quadruple? a b c d).map fun char =>
                      (char, 4)

------------------------------------------------------------
-- Texts
------------------------------------------------------------

/-
  Decode bytes from byte `position` on behind the characters
  `before`, which come last one first.  The first `skip`
  bytes belong to the last character.  The result of a failed
  decoding is the position where it stopped.
-/
def decodeFrom
    (position : Nat) :
    (before : Text) → (skip : Nat) → List UInt8 →
      Except Nat Text
  | before, _, [] => .ok before.reverse
  | before, skip + 1, _ :: rest =>
      decodeFrom (position + 1) before skip rest
  | before, 0, byte :: rest =>
      match char? (byte :: rest) with
      | none => .error position
      | some (char, size) =>
          decodeFrom (position + 1) (char :: before)
            (size - 1) rest

/-
  Decode bytes.  A failure tells the position of the first
  byte that starts no character.
-/
def decode
    (bytes : List UInt8) : Except Nat Text :=
  decodeFrom 0 [] 0 bytes

/- Encode a text. -/
def encode
    (text : Text) : List UInt8 :=
  text.flatMap String.utf8EncodeChar

end Utf8

end NotifyScope
