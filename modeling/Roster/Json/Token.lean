/-
The tokens of a JSON text.

A scanner reads the text byte by byte and holds what it has seen of the token at
hand.  All that counts for the form of a text is ASCII; the other bytes stand in
strings, and only when a string has ended it is seen whether they are UTF-8.  A
string that is not, or that escapes half of a surrogate pair, has no text; it is
a token all the same, so that the reader can decide where it matters.
-/
import Roster.Decimal.Word
import Roster.Json.Basic
import Roster.Text.Lossy

namespace Roster.Json

open Text (digitValue hexDigit? naturalOf)

/-- A token; `textless` is a string that has no text. -/
inductive Token where
  | openBrace
  | closeBrace
  | openBracket
  | closeBracket
  | comma
  | colon
  | atom (value : Json)
  | string (s : String)
  | textless
deriving Repr

/-! ## Numbers -/

/-- Appends digits to a significand as long as it fits 64 bits, and counts the
digits that are left over. -/
def extend (significand : Nat) : List Char → Nat × Nat
  | [] => (significand, 0)
  | c :: r =>
      let longer := significand * 10 + digitValue c
      if longer < UInt64.size then extend longer r else (significand, r.length + 1)

/-- The number of an exponent.  A number of more than twenty digits is as far out of all
bounds as its first twenty digits, so the others are not looked at. -/
def exponentValue (digits : List Char) : Nat :=
  naturalOf ((digits.dropWhile (· = '0')).take 20)

/-- The exponent part of a number: nothing, or `e`, a sign and digits. -/
def exponentPart? : List Char → Option Int
  | [] => some 0
  | c :: r =>
      if c = 'e' ∨ c = 'E' then
        let (negative, digits) := match r with
          | '-' :: ds => (true, ds)
          | '+' :: ds => (false, ds)
          | ds => (false, ds)
        if digits.isEmpty || !digits.all Char.isDigit then none
        else some (if negative then -(exponentValue digits) else exponentValue digits)
      else none

/-- A number from its sign and the digits of its whole and fractional part.  Digits
that do not fit the significand are dropped, those of the whole part counting as a
power of ten. -/
def decimalOf (negative : Bool) (whole fraction : List Char) (exponent : Int) : Number :=
  let (significand, dropped) := extend 0 whole
  let (significand', dropped') := extend significand fraction
  .decimal negative significand' (exponent + dropped - (fraction.length - dropped' : Nat))

/-- The integer of at most 64 bits, signed or not, that digits spell; words have at most
twenty digits. -/
def wordInteger? (negative : Bool) (digits : List Char) : Option Int :=
  if 20 < digits.length then none
  else
    let n : Int := if negative then -(naturalOf digits) else naturalOf digits
    if Decimal.isSigned n || Decimal.isUnsigned n then some n else none

/-- A number without its sign. -/
def unsigned? (negative : Bool) (cs : List Char) : Option Number :=
  let whole := cs.takeWhile Char.isDigit
  let rest := cs.dropWhile Char.isDigit
  if whole.isEmpty || (whole.head? == some '0' && 1 < whole.length) then none
  else match rest with
    | [] => match wordInteger? negative whole with
        | some n =>
            if negative && n == 0 then some (decimalOf negative whole [] 0)
            else some (.integer n)
        | none => some (decimalOf negative whole [] 0)
    | '.' :: r =>
        let fraction := r.takeWhile Char.isDigit
        if fraction.isEmpty then none
        else (exponentPart? (r.dropWhile Char.isDigit)).map (decimalOf negative whole fraction)
    | r => (exponentPart? r).map (decimalOf negative whole [])

/-- The number that a word spells. -/
def numberOf? : List Char → Option Number
  | '-' :: r => unsigned? true r
  | r => unsigned? false r

/-- The value that a word outside of strings spells. -/
def atomOf? (word : List Char) : Option Json :=
  if word = "null".toList then some .null
  else if word = "true".toList then some (.bool true)
  else if word = "false".toList then some (.bool false)
  else (numberOf? word).map .number

/-! ## The scanner -/

/-- What has been seen of a string: its bytes, last first, and whether every surrogate so
far belongs to a pair. -/
structure Partial where
  reversed : List UInt8
  paired : Bool

/-- Where the scanner stands. -/
inductive Scan where
  /-- Between tokens. -/
  | between
  /-- In a word, given last character first. -/
  | word (reversed : List Char)
  /-- In a string. -/
  | text (seen : Partial)
  /-- After a backslash. -/
  | escape (seen : Partial)
  /-- In an escape by number: the first half of a pair that waits for its second
  half, the digits still to come, and the number so far. -/
  | unit (seen : Partial) (high : Option Nat) (left : Nat) (value : Nat)
  /-- After the first half of a surrogate pair. -/
  | high (seen : Partial) (unit : Nat)
  /-- After the first half of a surrogate pair and a backslash. -/
  | highEscape (seen : Partial) (unit : Nat)

/-- Adds a byte to a string. -/
def Partial.push (p : Partial) (b : UInt8) : Partial := { p with reversed := b :: p.reversed }

/-- Adds a character to a string. -/
def Partial.pushChar (p : Partial) (c : Char) : Partial :=
  (String.utf8EncodeChar c).foldl Partial.push p

/-- Notes that half of a surrogate pair stands alone. -/
def Partial.unpair (p : Partial) : Partial := { p with paired := false }

/-- The text of a string that has ended. -/
def Partial.text? (p : Partial) : Option String :=
  if p.paired then Text.ofBytes? p.reversed.reverse else none

/-- The token of a string that has ended. -/
def Partial.token (p : Partial) : Token :=
  match p.text? with
  | some s => .string s
  | none => .textless

/-- The white space of JSON. -/
def isSpace (c : Char) : Bool := c == ' ' || c == '\t' || c == '\n' || c == '\r'

/-- The character that a letter after a backslash stands for. -/
def escaped? : Char → Option Char
  | '"' => some '"'
  | '\\' => some '\\'
  | '/' => some '/'
  | 'b' => some '\x08'
  | 'f' => some '\x0c'
  | 'n' => some '\n'
  | 'r' => some '\r'
  | 't' => some '\t'
  | _ => none

/-- The first halves of surrogate pairs. -/
def isHigh (n : Nat) : Bool := 0xd800 ≤ n && n < 0xdc00

/-- The second halves of surrogate pairs. -/
def isLow (n : Nat) : Bool := 0xdc00 ≤ n && n < 0xe000

/-- The character of a surrogate pair. -/
def pairChar (high low : Nat) : Char :=
  Char.ofNat (0x10000 + (high - 0xd800) * 0x400 + (low - 0xdc00))

/-- The scanner after an escape by number is complete. -/
def afterUnit (seen : Partial) : Option Nat → Nat → Scan
  | none, n =>
      if isHigh n then .high seen n
      else if isLow n then .text seen.unpair
      else .text (seen.pushChar (Char.ofNat n))
  | some h, n =>
      if isLow n then .text (seen.pushChar (pairChar h n)) else .text seen.unpair

/-- The token of a character that stands for itself. -/
def punctuation? : Char → Option Token
  | '{' => some .openBrace
  | '}' => some .closeBrace
  | '[' => some .openBracket
  | ']' => some .closeBracket
  | ',' => some .comma
  | ':' => some .colon
  | _ => none

/-- One character between tokens: where the scanner goes, and the token that ends here. -/
def scanBetween (c : Char) : Scan × Option Token :=
  if c = '"' then (.text ⟨[], true⟩, none)
  else if isSpace c then (.between, none)
  else match punctuation? c with
    | some t => (.between, some t)
    | none => (.word [c], none)

/-- One byte inside a string; control characters are refused. -/
def scanText (seen : Partial) (b : UInt8) : Option (Scan × Option Token) :=
  if Char.ofUInt8 b = '"' then some (.between, some seen.token)
  else if Char.ofUInt8 b = '\\' then some (.escape seen, none)
  else if b < 0x20 then none
  else some (.text (seen.push b), none)

/-- The tokens of a text, put behind those already found, last first. -/
def scan : Scan → List Token → List UInt8 → Option (List Token)
  | .between, found, [] => some found.reverse
  | .word w, found, [] => (atomOf? w.reverse).map fun v => (.atom v :: found).reverse
  | _, _, [] => none
  | .between, found, b :: r =>
      match scanBetween (.ofUInt8 b) with
      | (s, some t) => scan s (t :: found) r
      | (s, none) => scan s found r
  | .word w, found, b :: r =>
      let c := Char.ofUInt8 b
      if c = '"' || isSpace c || (punctuation? c).isSome then
        match atomOf? w.reverse with
        | some v =>
            match scanBetween c with
            | (s, some t) => scan s (t :: .atom v :: found) r
            | (s, none) => scan s (.atom v :: found) r
        | none => none
      else scan (.word (c :: w)) found r
  | .text seen, found, b :: r =>
      match scanText seen b with
      | some (s, some t) => scan s (t :: found) r
      | some (s, none) => scan s found r
      | none => none
  | .escape seen, found, b :: r =>
      let c := Char.ofUInt8 b
      if c = 'u' then scan (.unit seen none 4 0) found r
      else match escaped? c with
        | some d => scan (.text (seen.pushChar d)) found r
        | none => none
  | .unit seen high left value, found, b :: r =>
      match hexDigit? (.ofUInt8 b) with
      | some d =>
          let n := value * 16 + d
          if left ≤ 1 then scan (afterUnit seen high n) found r
          else scan (.unit seen high (left - 1) n) found r
      | none => none
  | .high seen unit, found, b :: r =>
      if Char.ofUInt8 b = '\\' then scan (.highEscape seen unit) found r
      else match scanText seen.unpair b with
        | some (s, some t) => scan s (t :: found) r
        | some (s, none) => scan s found r
        | none => none
  | .highEscape seen unit, found, b :: r =>
      let c := Char.ofUInt8 b
      if c = 'u' then scan (.unit seen (some unit) 4 0) found r
      else match escaped? c with
        | some d => scan (.text (seen.unpair.pushChar d)) found r
        | none => none

/-- The tokens of a text, given as bytes; `none` if a part of it is no token. -/
def tokens? (text : List UInt8) : Option (List Token) := scan .between [] text

end Roster.Json
