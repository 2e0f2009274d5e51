/-
Reading records out of JSON values.

A decoder meets a value in the order of the text, and the first thing that does
not fit is what it reports; fields that are missing are reported after the whole
object has been seen.  The same record may be given as an object or as an array
of its fields.  A record is described by a `Shape`: the names of its fields, which
of them must be there, and how each is set.
-/
import Roster.Json.Position
import Roster.Json.Reader
import Roster.Text.Quoted

namespace Roster.Json

/-- What a decoder asks for. -/
inductive Want where
  | string
  | boolean
  | integer
  | unit
  | sequence
  | choice
  | record (name : String)
deriving DecidableEq, Repr

/-- The wording of what was asked for. -/
def Want.message : Want → String
  | .string => "a string"
  | .boolean => "a boolean"
  | .integer => "i64"
  | .unit => "unit"
  | .sequence => "a sequence"
  | .choice => "string or map"
  | .record name => s!"struct {name}"

/-- Why a value cannot be decoded. -/
inductive DecodeError where
  /-- The text is no JSON at all. -/
  | malformed
  | missingField (name : String)
  | duplicateField (name : String)
  | unknownField (name : String) (known : List String)
  | unknownVariant (name : String) (known : List String)
  | wrongType (got : Json) (want : Want)
  | integerRange (n : Int)
  /-- An array ends before the fields of the record do. -/
  | tooShort (length : Nat) (record : String) (fields : Nat)
  /-- An array goes on after the last field of the record. -/
  | tooLong (length : Nat)
  | trailing
  | valueExpected
  | singleKey
deriving Repr

/-- A name between backquotes. -/
def ticked (name : String) : String := "\x60" ++ name ++ "\x60"

/-- The wording of a choice between names. -/
def oneOf : List String → String
  | [a] => ticked a
  | [a, b] => s!"{ticked a} or {ticked b}"
  | names => "one of " ++ ", ".intercalate (names.map ticked)

/-- The wording of a value that was met. -/
def described : Json → String
  | .null => "null"
  | .bool b => "boolean " ++ ticked (if b then "true" else "false")
  | .number (.integer n) => "integer " ++ ticked (toString n)
  | .number (.decimal negative significand exponent) =>
      "floating point " ++ ticked ((Number.floatText? negative significand exponent).getD "")
  | .string s => "string " ++ Text.quoted s
  | .array _ => "sequence"
  | .object _ => "map"

/-- What is wrong with a value that cannot be decoded; a text that is no JSON at all has no
value. -/
def DecodeError.misfit? : DecodeError → Option String
  | .malformed => none
  | .missingField name => s!"missing field {ticked name}"
  | .duplicateField name => s!"duplicate field {ticked name}"
  | .unknownField name known => s!"unknown field {ticked name}, expected {oneOf known}"
  | .unknownVariant name known => s!"unknown variant {ticked name}, expected {oneOf known}"
  | .wrongType got want => s!"invalid type: {described got}, expected {want.message}"
  | .integerRange n => s!"invalid value: integer {ticked (toString n)}, expected i64"
  | .tooShort length record fields =>
      s!"invalid length {length}, expected struct {record} with {fields} element" ++
        (if fields = 1 then "" else "s")
  | .tooLong length => s!"invalid length {length}, expected fewer elements in array"
  | .trailing => "trailing characters"
  | .valueExpected => "expected value"
  | .singleKey => "invalid value: map, expected map with a single key"

/-- What a reader of texts knows of an error besides. -/
structure Wording where
  /-- What is wrong with a text that is no JSON. -/
  malformed : (text : List UInt8) → String
  /-- Where in the text the error was noticed. -/
  place : (text : List UInt8) → DecodeError → Position

/-- The wording of an error in a text. -/
def DecodeError.message (w : Wording) (text : List UInt8) (e : DecodeError) : String :=
  e.misfit?.getD (w.malformed text) ++ (w.place text e).words

/-- The outcome of decoding. -/
abbrev Decoded := Except DecodeError

/-- Where a value comes from: a text that is decoded as it is read, or a value that
stood by itself before. -/
inductive Source where
  | text
  | value
deriving DecidableEq, Repr

/-! ## Plain values -/

/-- A string. -/
def asString : Json → Decoded String
  | .string s => .ok s
  | v => .error (.wrongType v .string)

/-- A string or `null`. -/
def asOptionalString : Json → Decoded (Option String)
  | .null => .ok none
  | v => some <$> asString v

/-- A truth value. -/
def asBool : Json → Decoded Bool
  | .bool b => .ok b
  | v => .error (.wrongType v .boolean)

/-- A signed integer of 64 bits. -/
def asInteger : Json → Decoded Int
  | .number (.integer n) => if Decimal.isSigned n then .ok n else .error (.integerRange n)
  | v => .error (.wrongType v .integer)

/-- The content of a variant, which is `null`. -/
def asUnit : Json → Decoded Unit
  | .null => .ok ()
  | v => .error (.wrongType v .unit)

/-- A variant by its name. -/
def variantOf (names : List String) (ofName? : String → Option α) (name : String) : Decoded α :=
  match ofName? name with
  | some a => .ok a
  | none => .error (.unknownVariant name names)

/-- One of several variants: its name, or an object with the name and `null`. -/
def asVariant (source : Source) (names : List String) (ofName? : String → Option α) :
    Json → Decoded α
  | .string name => variantOf names ofName? name
  | .object members =>
      match source, members with
      | .text, [] => .error .valueExpected
      | .text, (name, v) :: rest => do
          let a ← variantOf names ofName? name
          asUnit v
          if rest.isEmpty then return a else throw .valueExpected
      | .value, [(name, v)] => do
          let a ← variantOf names ofName? name
          asUnit v
          return a
      | .value, _ => .error .singleKey
  | v => match source with
      | .text => .error .valueExpected
      | .value => .error (.wrongType v .choice)

/-- An array, item by item. -/
def asList (item : Json → Decoded α) : Json → Decoded (List α)
  | .array items => items.mapM item
  | v => .error (.wrongType v .sequence)

/-! ## Records -/

/-- How a record is given in JSON. -/
structure Shape (α : Type) where
  /-- The name of the record. -/
  name : String
  /-- The names of its fields, in order. -/
  fields : List String
  /-- The fields that an object must have, in order. -/
  required : List String
  /-- An object has no other members. -/
  strict : Bool := false
  /-- An array may end before the fields do. -/
  short : Bool := false
  /-- The record with no field set. -/
  start : α
  /-- Sets a field. -/
  set : Source → α → String → Json → Decoded α

namespace Shape

/-- A record in the making, with the names of the fields that have been set. -/
structure Made (α : Type) where
  seen : List String
  record : α

/-- Takes one member. -/
def step (s : Shape α) (source : Source) (made : Made α) (member : String × Json) :
    Decoded (Made α) :=
  let (name, value) := member
  if s.fields.contains name then
    if made.seen.contains name then .error (.duplicateField name)
    else (s.set source made.record name value).map fun a => ⟨name :: made.seen, a⟩
  else if s.strict then .error (.unknownField name s.fields)
  else .ok made

/-- Takes one member after the other. -/
def take (s : Shape α) (source : Source) (members : List (String × Json)) : Decoded (Made α) :=
  members.foldlM (s.step source) ⟨[], s.start⟩

/-- A record out of a value. -/
def decode (s : Shape α) (source : Source) : Json → Decoded α
  | .object members => do
      let made ← s.take source members
      match s.required.find? fun name => !made.seen.contains name with
      | some name => throw (.missingField name)
      | none => return made.record
  | .array items => do
      let made ← s.take source (s.fields.zip items)
      if items.length < s.fields.length && !s.short then
        throw (.tooShort items.length s.name s.fields.length)
      else if s.fields.length < items.length then
        throw (match source with
          | .text => .trailing
          | .value => .tooLong items.length)
      else return made.record
  | v => .error (.wrongType v (.record s.name))

end Shape

/-! ## Texts -/

/-- Decodes a text, given as bytes.  That a text is not sound counts for more than any other
error, and for nothing if the decoder does not look at the place. -/
def decodeText (members : Option (List String)) (decode : Json → Decoded α)
    (text : List UInt8) : Decoded α :=
  let value := match members with
    | some names => readMembers? names text
    | none => read? text
  match value with
  | none => .error .malformed
  | some v => match decode v with
    | .ok a => .ok a
    | .error e => if isSound text then .error e else .error .malformed

/-- Decodes the text of a record; members that the record ignores are not looked at. -/
def Shape.decodeText (s : Shape α) (text : List UInt8) : Decoded α :=
  Json.decodeText (if s.strict then none else some s.fields) (s.decode .text) text

end Roster.Json
