/-
Values of settings.

A settings file and the environment say the same things in different ways, so a
plain value is taken for what is asked for as far as it can be: a number may be
given as a text, a text as a number.
-/
import Roster.Decimal.Shortest
import Roster.Decimal.Word

namespace Roster.Settings

/-- A number that need not be whole. -/
inductive Fraction where
  | finite (negative : Bool) (magnitude : Decimal.Binary64)
  | infinite (negative : Bool)
  | undefined
deriving DecidableEq, Repr

/-- A value. -/
inductive Tree where
  | nothing
  | text (s : String)
  | integer (n : Int)
  | fraction (x : Fraction)
  | truth (b : Bool)
  | list (items : List Tree)
  | table (entries : List (String × Tree))
deriving Repr, Inhabited

namespace Fraction

/-- A decimal without exponent, and without a point if it is whole. -/
def plain (d : Decimal.Shortest) : String :=
  let digits := toString d.digits
  if d.digits = 0 then "0"
  else if 0 ≤ d.exponent then digits ++ Decimal.Style.noughts d.exponent.toNat
  else Decimal.Style.positional digits (d.exponent + digits.length - 1)

/-- The text of a number. -/
def text : Fraction → String
  | .finite negative x => (if negative then "-" else "") ++ plain (.of x)
  | .infinite negative => if negative then "-inf" else "inf"
  | .undefined => "NaN"

/-- The nearest unsigned word, a half going up; what lies outside goes to the end of the
range, and what is no number to nought. -/
def nearestWord : Fraction → Nat
  | .finite true _ | .infinite true | .undefined => 0
  | .infinite false => UInt64.size - 1
  | .finite false x =>
      let (num, den) := x.toFraction
      min ((2 * num + den) / (2 * den)) (UInt64.size - 1)

end Fraction

namespace Tree

/-- A value as a text. -/
def asText? : Tree → Option String
  | .text s => some s
  | .integer n => some (toString n)
  | .fraction x => some x.text
  | .truth b => some (if b then "true" else "false")
  | .nothing | .list _ | .table _ => none

/-- The words for one and for nought. -/
def switch? (word : String) : Option Nat :=
  let lower := word.map Char.toLower
  if ["true", "on", "yes"].contains lower then some 1
  else if ["false", "off", "no"].contains lower then some 0
  else none

/-- A value as an unsigned number. -/
def asNatural? : Tree → Option Nat
  | .text s => match switch? s with
      | some n => some n
      | none => match Decimal.word s with
          | .ok n => some n.toNat
          | .error _ => none
  | .integer n => if 0 ≤ n then some n.toNat else none
  | .fraction x => some x.nearestWord
  | .truth b => some (if b then 1 else 0)
  | .nothing | .list _ | .table _ => none

/-- A value as a list of texts. -/
def asTexts? : Tree → Option (List String)
  | .list items => items.mapM asText?
  | _ => none

/-- A value as one of several words; a table with a single entry stands for its name. -/
def asWord? (ofName? : String → Option α) : Tree → Option α
  | .text s => ofName? s
  | .table [(name, _)] => ofName? name
  | _ => none

/-- The entry of a table. -/
def entry? (entries : List (String × Tree)) (name : String) : Option Tree :=
  (entries.find? (·.1 == name)).map (·.2)

/-- The fields of a section: the entries of a table, or the items of a list in order. -/
def fields? (names : List String) : Tree → Option (List (String × Tree))
  | .table entries => some entries
  | .list items => some (names.zip items)
  | _ => none

/-- Sets the entry of a table, in its place if there is one. -/
def putEntry (entries : List (String × Tree)) (name : String) (t : Tree) :
    List (String × Tree) :=
  if entries.any (·.1 == name) then
    entries.map fun e => if e.1 = name then (name, t) else e
  else entries ++ [(name, t)]

end Tree

end Roster.Settings
