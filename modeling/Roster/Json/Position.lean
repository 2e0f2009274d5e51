/-
Positions at the end of messages.

A message about a JSON text may say at its end where in the text something is
wrong, as in ` at line 3 column 4`.  The position is told by plain numbers, and not
at all if its line is nought, since that is no place in a text.
-/
import Roster.Decimal.Word

namespace Roster.Json

/-- A place in a text. -/
structure Position where
  line : UInt64
  column : UInt64
deriving DecidableEq, Repr

namespace Position

/-- The words before the number of the line. -/
def lineWords : List Char := " at line ".toList

/-- The words before the number of the column. -/
def columnWords : List Char := " column ".toList

/-- The wording of a position. -/
def words (p : Position) : String :=
  if p.line = 0 then "" else s!" at line {p.line.toNat} column {p.column.toNat}"

/-- What stands before and after the last occurrence of some words. -/
def splitLast? (words : List Char) : List Char → Option (List Char × List Char)
  | [] => none
  | c :: r =>
      match splitLast? words r with
      | some (before, after) => some (c :: before, after)
      | none =>
          if words.isPrefixOf (c :: r) then some ([], (c :: r).drop words.length) else none

/-- The position that makes up a text after the words before its line. -/
def ofNumbers? (cs : List Char) : Option Position :=
  let line := cs.takeWhile Char.isDigit
  let rest := cs.dropWhile Char.isDigit
  let column := rest.drop columnWords.length
  if columnWords.isPrefixOf rest && column.all Char.isDigit then
    match Decimal.word (String.ofList line), Decimal.word (String.ofList column) with
    | .ok line, .ok column => some ⟨line, column⟩
    | _, _ => none
  else none

/-- A message and the position at its end. -/
def atEnd? (message : String) : Option (String × Position) :=
  (splitLast? lineWords message.toList).bind fun (before, after) =>
    (ofNumbers? after).map fun p => (String.ofList before, p)

/-- A message with the position at its end in the form in which it is told. -/
def plain (message : String) : String :=
  match atEnd? message with
  | some (before, p) => before ++ p.words
  | none => message

end Position

end Roster.Json
