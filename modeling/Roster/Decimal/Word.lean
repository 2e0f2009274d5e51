/-
Words of 64 bits: their bounds, and unsigned ones as texts.
-/
import Roster.Text.Digit

namespace Roster.Decimal

/-- One more than the largest signed word. -/
def signedBound : Int := 9223372036854775808

/-- The number is a signed word. -/
def isSigned (n : Int) : Bool := -signedBound ≤ n && n < signedBound

/-- The number is an unsigned word. -/
def isUnsigned (n : Int) : Bool := 0 ≤ n && n < 2 * signedBound

/-- Why a text is no unsigned word. -/
inductive WordDefect where
  | noDigits
  | invalidDigit
  | tooLarge
deriving DecidableEq, Repr

/-- The wording of a defect. -/
def WordDefect.message : WordDefect → String
  | .noDigits => "cannot parse integer from empty string"
  | .invalidDigit => "invalid digit found in string"
  | .tooLarge => "number too large to fit in target type"

/-- The number that digits stand for, put behind the number so far.  Of a character that
is no digit and a number that is too large, the one met first counts. -/
def wordFrom (value : Nat) : List Char → Except WordDefect UInt64
  | [] => .ok value.toUInt64
  | c :: r =>
      if c.isDigit then
        let longer := value * 10 + Text.digitValue c
        if longer < UInt64.size then wordFrom longer r else .error .tooLarge
      else .error .invalidDigit

/-- The unsigned word that a text spells; a plus sign may stand before it. -/
def word (text : String) : Except WordDefect UInt64 :=
  match text.toList with
  | [] => .error .noDigits
  | ['+'] => .error .invalidDigit
  | '+' :: r => wordFrom 0 r
  | cs => wordFrom 0 cs

end Roster.Decimal
