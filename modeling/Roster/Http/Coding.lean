/-
Codings of bodies.

A body may be packed, as the field `Content-Encoding` says.  The formats are not
described here: what comes out of a packed body is told by whoever unpacks it.
-/
import Roster.Http.Message
import Roster.Text.Blank

namespace Roster.Http

/-- How bodies are packed. -/
inductive Coding where
  | gzip
  | deflate
  | brotli
  | zstandard
deriving DecidableEq, Repr

namespace Coding

/-- The codings. -/
def all : List Coding := [.gzip, .deflate, .brotli, .zstandard]

/-- The word for a coding. -/
def name : Coding → String
  | .gzip => "gzip"
  | .deflate => "deflate"
  | .brotli => "br"
  | .zstandard => "zstd"

/-- The coding that a value of the field names; any other value means that the body is
not packed. -/
def ofValue? (value : String) : Option Coding :=
  if Header.isText value then all.find? fun c => Header.sameName c.name (Text.trim value)
  else none

/-- The coding of the body of a request. -/
def ofRequest? (r : Request) : Option Coding :=
  (Header.first? r.headers "content-encoding").bind ofValue?

end Coding

/-- What comes out of a body: pieces, one after the other, and then the end of the body, or
the words for what has stopped it before. -/
structure Unpacked where
  pieces : List (List UInt8)
  problem : Option String := none
deriving DecidableEq, Repr

end Roster.Http
