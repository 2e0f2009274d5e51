/-
Queries.

A query is a list of names and values, written as a form: parts stand between
`&`, a `+` is a space, and bytes may be escaped.  The fields that are asked for are
read in the order of the query, and one that occurs twice is refused.
-/
import Roster.Decimal.Word
import Roster.Json.Decode
import Roster.Text.Percent
import Roster.Text.Pieces

namespace Roster.Http.Query

/-- The text of a name or a value. -/
def component (bs : List UInt8) : String :=
  Text.ofBytes (Text.percentDecode [] (bs.map fun b => if b = 0x2b then 0x20 else b))

/-- The names and values of a query; a part without `=` has an empty value. -/
def pairs (query : String) : List (String × String) :=
  ((Text.pieces 0x26 (Text.bytes query)).filter (· ≠ [])).map fun part =>
    (component (part.takeWhile (· ≠ 0x3d)), component ((part.dropWhile (· ≠ 0x3d)).drop 1))

/-- Why a query cannot be read. -/
inductive Problem where
  | number (defect : Decimal.WordDefect)
  | duplicate (name : String)
  | unknownVariant (name : String) (known : List String)
deriving DecidableEq, Repr

/-- The wording of a problem. -/
def Problem.message : Problem → String
  | .number defect => defect.message
  | .duplicate name => s!"duplicate field {Json.ticked name}"
  | .unknownVariant name known =>
      s!"unknown variant {Json.ticked name}, expected {Json.oneOf known}"

/-- An unsigned word. -/
def word (text : String) : Except Problem UInt64 := (Decimal.word text).mapError .number

/-- Sets a field that has not been set yet. -/
def once (name : String) (slot : Option α) (value : Except Problem α) :
    Except Problem (Option α) :=
  match slot with
  | some _ => .error (.duplicate name)
  | none => value.map some

end Roster.Http.Query
