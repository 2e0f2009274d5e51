/-
Numbers of 64-bit floating point.

A number that is not negative is a significand times a power of two.  The
number nearest to a fraction, ties to the even significand, and from it the
product and the quotient.  All of it is arithmetic on natural numbers.
-/

namespace Roster.Decimal

/-- A power with a whole exponent, as numerator and denominator. -/
def power (base : Nat) (e : Int) : Nat × Nat :=
  if 0 ≤ e then (Nat.pow base e.toNat, 1) else (1, Nat.pow base e.natAbs)

/-- The number `significand * 2 ^ exponent`. -/
structure Binary64 where
  significand : Nat
  exponent : Int
deriving DecidableEq, Repr

namespace Binary64

/-- The smallest exponent. -/
def minExponent : Int := -1074

/-- The largest exponent of a full significand of 53 bits. -/
def maxExponent : Int := 971

/-- The smallest significand of 53 bits. -/
def fullSignificand : Nat := 4503599627370496

/-- The quotient rounded to the nearest number, a half to the even one. -/
def roundDiv (num den : Nat) : Nat :=
  let q := num / den
  let twice := 2 * (num % den)
  if twice < den then q
  else if den < twice then q + 1
  else q + q % 2

/-- The exponent with which the fraction has a significand of 53 bits, or the
smallest exponent if that is larger. -/
def exponentOf (num den : Nat) : Int :=
  let guess : Int := (num.log2 : Int) - den.log2 - 52
  let (up, down) := power 2 (-guess)
  let e := if num * up < fullSignificand * (den * down) then guess - 1 else guess
  max e minExponent

/-- The number nearest to a fraction; `none` if it is beyond the largest one. -/
def ofFraction? (num den : Nat) : Option Binary64 :=
  if num = 0 then some ⟨0, 0⟩
  else
    let e := exponentOf num den
    let (up, down) := power 2 (-e)
    let m := roundDiv (num * up) (den * down)
    let rounded : Binary64 :=
      if m = 2 * fullSignificand then ⟨fullSignificand, e + 1⟩ else ⟨m, e⟩
    if maxExponent < rounded.exponent then none else some rounded

/-- The number as numerator and denominator. -/
def toFraction (x : Binary64) : Nat × Nat :=
  let (up, down) := power 2 x.exponent
  (x.significand * up, down)

/-- The rounded product. -/
def mul? (x y : Binary64) : Option Binary64 :=
  let (a, b) := x.toFraction
  let (c, d) := y.toFraction
  ofFraction? (a * c) (b * d)

/-- The rounded quotient by a number that is not zero. -/
def div? (x y : Binary64) : Option Binary64 :=
  let (a, b) := x.toFraction
  let (c, d) := y.toFraction
  ofFraction? (a * d) (b * c)

/-- The number nearest to a power of ten. -/
def tenTo? (n : Nat) : Option Binary64 := ofFraction? (Nat.pow 10 n) 1

end Binary64

end Roster.Decimal
