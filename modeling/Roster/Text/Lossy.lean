/-
Bytes and texts.

A text as bytes in UTF-8, and bytes read as UTF-8.  Where bytes are no UTF-8, the
longest beginning of a character that is cut short, or else a single byte, is read
as the replacement character.
-/

namespace Roster.Text

/-- The bytes of a text. -/
def bytes (s : String) : List UInt8 := s.toUTF8.toList

/-- The text of bytes, unless they are no UTF-8. -/
def ofBytes? (bs : List UInt8) : Option String := String.fromUTF8? bs.toByteArray

/-- The character that stands for bytes that are no text. -/
def replacement : Char := '\ufffd'

/-- What is expected of the next byte: `none` at the start of a character, else how
many bytes are missing, between which bounds the next one lies, and the bits so far. -/
structure Pending where
  missing : Nat
  low : Nat
  high : Nat
  bits : Nat

/-- What a first byte announces; `none` if no character of several bytes starts with it.
The bounds exclude longer forms than needed, surrogates, and what lies past the last
code point. -/
def announced? (b : Nat) : Option Pending :=
  if 0xc2 ≤ b ∧ b ≤ 0xdf then some ⟨1, 0x80, 0xbf, b - 0xc0⟩
  else if b = 0xe0 then some ⟨2, 0xa0, 0xbf, 0⟩
  else if b = 0xed then some ⟨2, 0x80, 0x9f, 0xd⟩
  else if 0xe1 ≤ b ∧ b ≤ 0xef then some ⟨2, 0x80, 0xbf, b - 0xe0⟩
  else if b = 0xf0 then some ⟨3, 0x90, 0xbf, 0⟩
  else if 0xf1 ≤ b ∧ b ≤ 0xf3 then some ⟨3, 0x80, 0xbf, b - 0xf0⟩
  else if b = 0xf4 then some ⟨3, 0x80, 0x8f, 4⟩
  else none

/-- A byte at the start of a character: the characters it completes and what is expected next. -/
def startChar (b : Nat) : List Char × Option Pending :=
  if b < 0x80 then ([Char.ofNat b], none)
  else match announced? b with
    | some p => ([], some p)
    | none => ([replacement], none)

/-- The characters that bytes are read as. -/
def decodeFrom : Option Pending → List UInt8 → List Char
  | none, [] => []
  | some _, [] => [replacement]
  | none, b :: r =>
      let (cs, next) := startChar b.toNat
      cs ++ decodeFrom next r
  | some p, b :: r =>
      let n := b.toNat
      if p.low ≤ n ∧ n ≤ p.high then
        let bits := p.bits * 64 + (n - 0x80)
        if p.missing ≤ 1 then Char.ofNat bits :: decodeFrom none r
        else decodeFrom (some ⟨p.missing - 1, 0x80, 0xbf, bits⟩) r
      else
        let (cs, next) := startChar n
        replacement :: (cs ++ decodeFrom next r)

/-- The text that bytes are read as. -/
def ofBytes (bs : List UInt8) : String := String.ofList (decodeFrom none bs)

end Roster.Text
