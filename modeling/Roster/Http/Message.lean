/-
Requests and responses.
-/
import Roster.Decimal.Word
import Roster.Json.Basic

namespace Roster.Http

/-- A header field: its name and its value as it was sent. -/
abbrev Header := String × String

/-- A request. -/
structure Request where
  method : String
  /-- The path, and after a `?` the query; before them may stand a scheme and an authority. -/
  target : String
  headers : List Header := []
  body : List UInt8 := []
deriving Repr, DecidableEq

/-- A response. -/
structure Response where
  status : Nat
  headers : List Header := []
  body : Option Json := none
deriving Repr

namespace Header

/-- Names of header fields are the same in small and capital letters. -/
def sameName (a b : String) : Bool := a.toList.map Char.toLower == b.toList.map Char.toLower

/-- The first value of a header field. -/
def first? (headers : List Header) (name : String) : Option String :=
  (headers.find? fun h => sameName h.1 name).map (·.2)

/-- The characters of a value that is a text: tab, space and visible ASCII. -/
def isVisible (c : Char) : Bool := c == '\t' || (0x20 ≤ c.toNat && c.toNat < 0x7f)

/-- The value is a text. -/
def isText (value : String) : Bool := value.toList.all isVisible

end Header

namespace Request

/-- The characters of schemes. -/
def isSchemeChar (c : Char) : Bool := c.isAlphanum || "+-.".toList.contains c

/-- The characters that end an authority. -/
def endsAuthority (c : Char) : Bool := c == '/' || c == '?' || c == '#'

/-- The part of the target that starts with the path.  A target may be a path, or an
address with a scheme and an authority before its path; others have no path. -/
def localTarget (r : Request) : List Char :=
  match r.target.toList with
  | '/' :: rest => '/' :: rest
  | cs => match cs.dropWhile isSchemeChar with
      | ':' :: '/' :: '/' :: rest => rest.dropWhile fun c => !endsAuthority c
      | _ => []

/-- What stands before the query in the target. -/
def path (r : Request) : String :=
  String.ofList (r.localTarget.takeWhile fun c => c ≠ '?' && c ≠ '#')

/-- The query: what stands after the first `?` of the target. -/
def query (r : Request) : String :=
  String.ofList (((r.localTarget.takeWhile (· ≠ '#')).dropWhile (· ≠ '?')).drop 1)

/-- The number of bytes in the body, as far as the request announces it. -/
def announced? (r : Request) : Option UInt64 :=
  (Header.first? r.headers "content-length").bind fun value =>
    if Header.isText value then (Decimal.word value).toOption else none

end Request

namespace Response

/-- A response with a JSON body. -/
def json (status : Nat) (body : Json) (headers : List Header := []) : Response :=
  { status, headers := headers ++ [("content-type", "application/json")], body := some body }

/-- A response without a body. -/
def empty (status : Nat) : Response := { status }

/-- The response to a request that leads nowhere. -/
def noRoute : Response := empty 404

end Response

end Roster.Http
