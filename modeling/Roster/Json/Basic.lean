/-
JSON values.

A value keeps the order of the members of an object, and repeated names.  A
number keeps the difference between an integer of at most 64 bits and any other
number, which has a significand of at most 64 bits and a power of ten.
-/
import Roster.Decimal.Shortest

namespace Roster

/-- A JSON number. -/
inductive Json.Number where
  | integer (n : Int)
  | decimal (negative : Bool) (significand : Nat) (exponent : Int)
deriving DecidableEq, Repr

/-- A JSON value. -/
inductive Json where
  | null
  | bool (b : Bool)
  | number (n : Json.Number)
  | string (s : String)
  | array (items : List Json)
  | object (members : List (String × Json))
deriving Repr, Inhabited

namespace Json

/-- An integer as a value. -/
def int (n : Int) : Json := .number (.integer n)

/-- A word of 64 bits as a value. -/
def word (n : UInt64) : Json := .int n.toNat

/-- A value that may be missing, with `null` in its place. -/
def orNull (write : α → Json) : Option α → Json
  | some a => write a
  | none => .null

/-- An object without the members that have no value. -/
def record (members : List (String × Option Json)) : Json :=
  .object (members.filterMap fun (name, value) => value.map (name, ·))

/-- The first member of an object with a given name. -/
def get? (name : String) : Json → Option Json
  | .object members => (members.find? (·.1 == name)).map (·.2)
  | _ => none

namespace Number

/-- Powers of ten are looked up as numbers of floating point up to this one. -/
def largestTenPower : Nat := 308

/-- A significand scaled by a power of ten, rounding once for the significand and
once for each factor.  `none` if the number is too large.  Far below, dividing by
the largest power brings the significand to zero within `fuel` steps. -/
def scale? : Nat → Decimal.Binary64 → Int → Option Decimal.Binary64
  | 0, x, _ => some x
  | fuel + 1, x, e =>
      if e.natAbs ≤ largestTenPower then
        (Decimal.Binary64.tenTo? e.natAbs).bind fun ten =>
          if 0 ≤ e then x.mul? ten else x.div? ten
      else if x.significand = 0 then some x
      else if 0 < e then none
      else (Decimal.Binary64.tenTo? largestTenPower).bind fun ten =>
        (x.div? ten).bind fun y => scale? fuel y (e + largestTenPower)

/-- The number of floating point that a decimal stands for. -/
def binary64? (significand : Nat) (exponent : Int) : Option Decimal.Binary64 :=
  (Decimal.Binary64.ofFraction? significand 1).bind fun x => scale? 4 x exponent

/-- Powers of ten from -5 to 15 are written out. -/
def floatStyle : Decimal.Style := ⟨-5, 15⟩

/-- The shortest text of a decimal that reads back as the same number of floating
point; `none` if the number is too large for one. -/
def floatText? (negative : Bool) (significand : Nat) (exponent : Int) : Option String :=
  (binary64? significand exponent).map fun x =>
    (if negative then "-" else "") ++ floatStyle.write (.of x)

/-- The number is not too large for one of floating point. -/
def isFinite : Number → Bool
  | .integer _ => true
  | .decimal _ significand exponent => (binary64? significand exponent).isSome

end Number

end Json

end Roster
