/-
Sortable ids.

An id of 26 characters: ten for the moment in milliseconds at which it was made, and
sixteen for chance, both in base 32.  Ids of different moments sort by the moment.
-/

namespace Roster.Ulid

/-- The digits of base 32, in ascending order; letters that look like others are left out. -/
def alphabet : List Char := "0123456789ABCDEFGHJKMNPQRSTVWXYZ".toList

/-- The digit of a number below 32. -/
def digit (n : Nat) : Char := alphabet.getD (n % 32) '0'

/-- The last `width` digits of a number in base 32. -/
def digits : Nat → Nat → List Char
  | 0, _ => []
  | width + 1, n => digits width (n / 32) ++ [digit n]

/-- How many characters say the moment. -/
def momentWidth : Nat := 10

/-- How many characters are left to chance. -/
def chanceWidth : Nat := 16

/-- The characters that are left to chance. -/
def chanceText (chance : Nat) : String := String.ofList (digits chanceWidth chance)

/-- The id of a moment, with a number drawn by chance. -/
def text (moment chance : Nat) : String :=
  String.ofList (digits momentWidth moment) ++ chanceText chance

theorem length_digits (width n : Nat) : (digits width n).length = width := by
  induction width generalizing n with
  | zero => rfl
  | succ w ih => simp [digits, ih]

end Roster.Ulid
