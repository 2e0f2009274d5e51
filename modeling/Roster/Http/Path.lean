/-
Paths of requests.

A path is taken apart after its escapes have been replaced, save those of a
slash, a percent sign and a plus sign: these are replaced only in the segments
that a route hands on, so that a segment may hold a slash.
-/
import Roster.Text.Percent
import Roster.Text.Pieces

namespace Roster.Http.Path

/-- The bytes whose escapes stay until the path is taken apart: `%`, `/` and `+`. -/
def keptBytes : List UInt8 := [0x25, 0x2f, 0x2b]

/-- The path in the form in which routes are matched. -/
def matched (path : String) : String := Text.percentDecoded keptBytes path

/-- A segment in the form in which it is handed on. -/
def segmentValue (segment : String) : String := Text.percentDecoded [] segment

/-- The rest of a path that lies at or below a base path. -/
def below? (base path : List Char) : Option (List Char) :=
  if base.isPrefixOf path then
    match path.drop base.length with
    | [] => some []
    | c :: r => if c = '/' then some (c :: r) else none
  else none

/-- The segments of a path that starts with a slash. -/
def segments? : List Char → Option (List String)
  | '/' :: r => some ((Text.pieces '/' r).map String.ofList)
  | _ => none

end Roster.Http.Path
