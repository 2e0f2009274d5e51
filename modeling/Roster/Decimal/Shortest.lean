/-
The shortest decimal that reads back.

Every number of 64-bit floating point is the nearest one to an interval of
reals.  Among the decimals in that interval with the fewest digits, the one
nearest to the number stands for it.  On the grid of decimals with a given
number of digits only the two neighbours of the number need to be looked at.
-/
import Roster.Decimal.Binary64

namespace Roster.Decimal

/-- A decimal number `digits * 10 ^ exponent`. -/
structure Shortest where
  digits : Nat
  exponent : Int
deriving DecidableEq, Repr

namespace Shortest

/-- The interval of reals that round to a number, its ends as multiples of a
quarter of the last place.  Below a power of two the numbers lie twice as close. -/
structure Interval where
  low : Nat
  high : Nat
  closed : Bool

/-- The interval of a number. -/
def intervalOf (x : Binary64) : Interval :=
  let m := x.significand
  let narrow := m = Binary64.fullSignificand ∧ Binary64.minExponent < x.exponent
  { low := if narrow then 4 * m - 1 else 4 * m - 2
    high := 4 * m + 2
    closed := m % 2 = 0 }

/-- A decimal lies in the interval of a number. -/
def readsBack (x : Binary64) (d : Shortest) : Bool :=
  let i := intervalOf x
  let (up, down) := power 2 (x.exponent - 2)
  let (tenUp, tenDown) := power 10 d.exponent
  let value := d.digits * tenUp * down
  let low := i.low * up * tenDown
  let high := i.high * up * tenDown
  if i.closed then low ≤ value && value ≤ high else low < value && value < high

/-- The power of ten in the first digit of a fraction that is not zero. -/
def leading (num den : Nat) : Int :=
  let guess : Int := (toString num).length - (toString den).length
  let (up, down) := power 10 guess
  if num * down < den * up then guess - 1 else guess

/-- The decimal with `count` digits that reads back, the nearer of two. -/
def withDigits? (x : Binary64) (lead : Int) (count : Nat) : Option Shortest :=
  let e := lead - count + 1
  let (num, den) := x.toFraction
  let (tenUp, tenDown) := power 10 e
  let below := num * tenDown / (den * tenUp)
  let rest := num * tenDown % (den * tenUp)
  let floor : Shortest := ⟨below, e⟩
  let ceiling : Shortest := ⟨below + 1, e⟩
  match readsBack x floor, readsBack x ceiling with
  | true, true =>
      if 2 * rest < den * tenUp then some floor
      else if den * tenUp < 2 * rest then some ceiling
      else if below % 2 = 0 then some floor else some ceiling
  | true, false => some floor
  | false, true => some ceiling
  | false, false => none

/-- The same decimal without noughts at the end of its digits, for at most `fuel` noughts. -/
def trimmed : Nat → Shortest → Shortest
  | 0, d => d
  | fuel + 1, d =>
      if d.digits ≠ 0 ∧ d.digits % 10 = 0 then trimmed fuel ⟨d.digits / 10, d.exponent + 1⟩
      else d

/-- The shortest decimal that reads back as the number; seventeen digits always do. -/
def of (x : Binary64) : Shortest :=
  if x.significand = 0 then ⟨0, 0⟩
  else
    let (num, den) := x.toFraction
    let lead := leading num den
    match (List.range 17).findSome? fun n => withDigits? x lead (n + 1) with
    | some d => trimmed 20 d
    | none => ⟨0, 0⟩

end Shortest

/-- How a decimal is written: which powers of ten of its first digit are written out. -/
structure Style where
  lowest : Int
  highest : Int

namespace Style

/-- As many noughts as `count` says. -/
def noughts (count : Nat) : String := String.ofList (List.replicate count '0')

/-- A decimal in digits and a point, with a nought where no digit stands beside the point. -/
def positional (digits : String) (lead : Int) : String :=
  if lead < 0 then "0." ++ noughts (-lead - 1).toNat ++ digits
  else
    let whole := lead.toNat + 1
    if digits.length ≤ whole then digits ++ noughts (whole - digits.length) ++ ".0"
    else String.ofList (digits.toList.take whole) ++ "." ++ String.ofList (digits.toList.drop whole)

/-- A decimal with one digit before the point and a power of ten, its sign always written. -/
def scientific (digits : String) (lead : Int) : String :=
  let head := String.ofList (digits.toList.take 1)
  let tail := digits.toList.drop 1
  let mantissa := if tail.isEmpty then head else head ++ "." ++ String.ofList tail
  mantissa ++ (if lead < 0 then "e-" else "e+") ++ toString lead.natAbs

/-- The text of a decimal that is not negative. -/
def write (style : Style) (d : Shortest) : String :=
  if d.digits = 0 then "0.0"
  else
    let digits := toString d.digits
    let lead := d.exponent + digits.length - 1
    if style.lowest ≤ lead ∧ lead ≤ style.highest then positional digits lead
    else scientific digits lead

end Style

end Roster.Decimal
