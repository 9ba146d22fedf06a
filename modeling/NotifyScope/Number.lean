/-
  This file defines the figures of a summary: fractions,
  rounded to the 53 binary digits of a floating-point number
  and written with a fixed number of decimals.

  Key definitions include:
    * `Fraction`
    * `Fraction.nearest`
    * `Fraction.toBinary`
    * `Fraction.decimal`
-/

namespace NotifyScope

------------------------------------------------------------
-- Fractions
------------------------------------------------------------

/- A number that is not negative. -/
structure Fraction where
  num : Nat
  den : Nat
deriving DecidableEq, Repr

namespace Fraction

/- A whole number. -/
def ofNat
    (n : Nat) : Fraction :=
  { num := n, den := 1 }

/- The sum of two numbers. -/
def add
    (x y : Fraction) : Fraction :=
  { num := x.num * y.den + y.num * x.den
    den := x.den * y.den }

/- The product of two numbers. -/
def mul
    (x y : Fraction) : Fraction :=
  { num := x.num * y.num, den := x.den * y.den }

/- The quotient of two numbers, the second one not zero. -/
def div
    (x y : Fraction) : Fraction :=
  { num := x.num * y.den, den := x.den * y.num }

------------------------------------------------------------
-- Rounding
------------------------------------------------------------

/- The nearest whole number, the even one of two. -/
def nearest
    (x : Fraction) : Nat :=
  let floor := x.num / x.den
  let rest := x.num % x.den
  if x.den < 2 * rest ||
      (2 * rest == x.den && floor % 2 == 1) then
    floor + 1
  else
    floor

/- Multiply a number by a power of two. -/
def scale
    (exponent : Int)
    (x : Fraction) : Fraction :=
  match exponent with
  | .ofNat n => { x with num := x.num * Nat.pow 2 n }
  | .negSucc n => { x with den := x.den * Nat.pow 2 (n + 1) }

/-
  The nearest number with 53 binary digits.  The exponent is
  chosen so that the scaled number lies between 2^52 and
  2^53, where whole numbers have that many digits.
-/
def toBinary
    (x : Fraction) : Fraction :=
  if x.num = 0 then
    ofNat 0
  else
    let guess : Int := 52 + x.den.log2 - x.num.log2
    let scaled := scale guess x
    let exponent :=
      if scaled.num < scaled.den * Nat.pow 2 52 then
        guess + 1
      else
        guess
    scale (-exponent) (ofNat (scale exponent x).nearest)

------------------------------------------------------------
-- Decimals
------------------------------------------------------------

/- Write a number with a fixed number of decimals. -/
def decimal
    (places : Nat)
    (x : Fraction) : String :=
  let unit := Nat.pow 10 places
  let rounded := (x.mul (ofNat unit)).nearest
  if places = 0 then
    toString rounded
  else
    let digits := Nat.toDigits 10 (rounded % unit)
    toString (rounded / unit) ++ "." ++
      String.ofList
        (List.replicate (places - digits.length) '0' ++
          digits)

end Fraction

end NotifyScope
