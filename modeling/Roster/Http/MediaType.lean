/-
Media types.

The value of a `Content-Type` field: a type, a subtype that may end in a suffix
after `+`, and parameters.
-/
import Roster.Http.Message

namespace Roster.Http.MediaType

/-- The characters of types, subtypes and the names of parameters. -/
def isToken (c : Char) : Bool := c.isAlphanum || "!#$%&'*+-.^_\x60|~".toList.contains c

/-- The characters of quoted values: space and visible ASCII. -/
def isQuotable (c : Char) : Bool := 0x20 ≤ c.toNat && c.toNat < 0x7f

/-- Where the reading of parameters stands. -/
inductive Place where
  /-- Before a parameter, where spaces may stand. -/
  | before
  /-- In the name of a parameter. -/
  | name
  /-- After the equals sign. -/
  | valueStart
  | value
  /-- In a quoted value; whether something has been quoted. -/
  | quoted (begun : Bool)
  /-- After a quoted value. -/
  | after

/-- The parameters after the first semicolon are well formed. -/
def parametersFrom : Place → List Char → Bool
  | .before, [] | .valueStart, [] | .value, [] | .after, [] => true
  | .name, [] | .quoted _, [] => false
  | .before, c :: r =>
      if c = ' ' then parametersFrom .before r
      else isToken c && parametersFrom .name r
  | .name, c :: r =>
      if c = '=' then parametersFrom .valueStart r
      else isToken c && parametersFrom .name r
  | .valueStart, c :: r =>
      if c = '"' then parametersFrom (.quoted false) r
      else isToken c && parametersFrom .value r
  | .value, c :: r =>
      if c = ';' then parametersFrom .before r
      else isToken c && parametersFrom .value r
  | .quoted begun, c :: r =>
      if c = '"' && begun then parametersFrom .after r
      else isQuotable c && parametersFrom (.quoted true) r
  | .after, c :: r =>
      if c = ';' then parametersFrom .before r
      else c = ' ' && parametersFrom .after r

/-- The part of a subtype before its last `+`, and the suffix after it. -/
def splitSuffix (subtype : List Char) : List Char × Option (List Char) :=
  let suffix := (subtype.reverse.takeWhile (· ≠ '+')).reverse
  let base := subtype.take (subtype.length - suffix.length - 1)
  if base.isEmpty then (subtype, none) else (base, some suffix)

/-- The value names JSON: its subtype is `json`, or has the suffix `json`. -/
def isJson (value : String) : Bool :=
  let cs := value.toList.map Char.toLower
  let kind := cs.takeWhile (· ≠ '/')
  let rest := (cs.dropWhile (· ≠ '/')).drop 1
  let subtype := rest.takeWhile (· ≠ ';')
  let parameters := (rest.dropWhile (· ≠ ';')).drop 1
  let (base, suffix) := splitSuffix subtype
  Header.isText value && cs.contains '/' && !kind.isEmpty && kind.all isToken &&
    subtype.all isToken && parametersFrom .before parameters &&
    (base == "json".toList || suffix == some "json".toList)

end Roster.Http.MediaType
