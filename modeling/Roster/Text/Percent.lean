/-
Percent escapes.

A byte may be written as `%` and two hexadecimal digits.  Decoding can leave the
escapes of some bytes as they are; an incomplete escape stands for itself.
-/
import Roster.Text.Digit
import Roster.Text.Lossy

namespace Roster.Text

/-- The byte that two hexadecimal digits stand for. -/
def hexPair? (a b : UInt8) : Option UInt8 :=
  (hexNatural? [Char.ofNat a.toNat, Char.ofNat b.toNat]).map Nat.toUInt8

/-- Bytes with their escapes replaced, except those of the `kept` bytes. -/
def percentDecode (kept : List UInt8) : List UInt8 → List UInt8
  | 0x25 :: a :: b :: r =>
      match hexPair? a b with
      | some c => if kept.contains c then 0x25 :: a :: b :: percentDecode kept r
          else c :: percentDecode kept r
      | none => 0x25 :: percentDecode kept (a :: b :: r)
  | c :: r => c :: percentDecode kept r
  | [] => []

/-- A text with its escapes replaced, except those of the `kept` bytes. -/
def percentDecoded (kept : List UInt8) (s : String) : String :=
  ofBytes (percentDecode kept (bytes s))

/-- A text with its escapes replaced, unless their bytes are no text. -/
def percentText? (s : String) : Option String :=
  ofBytes? (percentDecode [] (bytes s))

end Roster.Text
