/-
Numbers, truth values and dates of TOML.
-/
import Roster.Settings.Tree

namespace Roster.Toml

open Settings (Fraction Tree)
open Text (naturalOf)

/-- The digits of a number, between which single underscores may stand. -/
def ungrouped? (isDigit : Char → Bool) : List Char → Option (List Char)
  | [] => none
  | [c] => if isDigit c then some [c] else none
  | c :: '_' :: r => if isDigit c then (ungrouped? isDigit r).map (c :: ·) else none
  | c :: r => if isDigit c then (ungrouped? isDigit r).map (c :: ·) else none

/-- The number of digits to a base of at most sixteen. -/
def numberIn (base : Nat) (digits : List Char) : Nat :=
  digits.foldl (fun n c => n * base + (Text.hexDigit? c).getD 0) 0

/-- An integer, if it is a signed word. -/
def signedWord? (n : Int) : Option Tree :=
  if Decimal.isSigned n then some (.integer n) else none

/-- An integer to another base than ten. -/
def based? (base : Nat) (isDigit : Char → Bool) (cs : List Char) : Option Tree :=
  (ungrouped? isDigit cs).bind fun ds => signedWord? (numberIn base ds)

/-- The digits of a whole number, which starts with a nought only if it is nought. -/
def whole? (cs : List Char) : Option (List Char) :=
  match ungrouped? Char.isDigit cs with
  | some ('0' :: _ :: _) => none
  | r => r

/-- A sign, and what follows it. -/
def signed (cs : List Char) : Bool × List Char :=
  match cs with
  | '-' :: r => (true, r)
  | '+' :: r => (false, r)
  | r => (false, r)

/-- The number `digits * 10 ^ exponent` as the nearest one of floating point; `none` if it
is too large. -/
def nearest? (digits : List Char) (exponent : Int) : Option Decimal.Binary64 :=
  let significand := naturalOf digits
  if significand = 0 then some ⟨0, 0⟩
  else
    let lead := exponent + (toString significand).length
    if 310 < lead then none
    else if lead < -330 then some ⟨0, 0⟩
    else
      let (up, down) := Decimal.power 10 exponent
      Decimal.Binary64.ofFraction? (significand * up) down

/-- The exponent after `e`. -/
def exponent? (cs : List Char) : Option Int :=
  let (negative, r) := signed cs
  (ungrouped? Char.isDigit r).map fun ds =>
    let n : Int := naturalOf ds
    if negative then -n else n

/-- A number with a point or an exponent, without its sign. -/
def fraction? (negative : Bool) (cs : List Char) : Option Tree := do
  let isMark := fun c => c = 'e' || c = 'E'
  let mantissa := cs.takeWhile fun c => !isMark c
  let exponent ← match cs.drop mantissa.length with
    | [] => some 0
    | _ :: r => exponent? r
  let whole ← whole? (mantissa.takeWhile (· ≠ '.'))
  let part ← match mantissa.dropWhile (· ≠ '.') with
    | [] => some []
    | _ :: r => ungrouped? Char.isDigit r
  let x ← nearest? (whole ++ part) (exponent - part.length)
  return .fraction (.finite negative x)

/-- A number. -/
def number? : List Char → Option Tree
  | '0' :: 'x' :: r => based? 16 (fun c => (Text.hexDigit? c).isSome) r
  | '0' :: 'o' :: r => based? 8 (fun c => '0' ≤ c && c ≤ '7') r
  | '0' :: 'b' :: r => based? 2 (fun c => c = '0' || c = '1') r
  | cs =>
      let (negative, r) := signed cs
      if r = "inf".toList then some (.fraction (.infinite negative))
      else if r = "nan".toList then some (.fraction .undefined)
      else match whole? r with
        | some ds =>
            let n : Int := naturalOf ds
            signedWord? (if negative then -n else n)
        | none =>
            if r.any fun c => c = '.' || c = 'e' || c = 'E' then fraction? negative r else none

/-! ## Dates -/

/-- The days of a month. -/
def daysIn (year month : Nat) : Nat :=
  if month = 2 then
    if year % 4 = 0 ∧ (year % 100 ≠ 0 ∨ year % 400 = 0) then 29 else 28
  else if [4, 6, 9, 11].contains month then 30
  else 31

/-- A number of a fixed width at the start of a text, and the rest. -/
def fixed? (width : Nat) (cs : List Char) : Option (Nat × List Char) :=
  let ds := cs.take width
  if ds.length = width ∧ ds.all Char.isDigit then some (naturalOf ds, cs.drop width) else none

/-- What follows a character. -/
def after? (mark : Char) : List Char → Option (List Char)
  | c :: r => if c = mark then some r else none
  | [] => none

/-- A date at the start of a text: its characters and the rest. -/
def date? (cs : List Char) : Option (List Char × List Char) := do
  let (year, r) ← fixed? 4 cs
  let (month, r) ← fixed? 2 (← after? '-' r)
  let (day, r) ← fixed? 2 (← after? '-' r)
  if 1 ≤ month ∧ month ≤ 12 ∧ 1 ≤ day ∧ day ≤ daysIn year month then
    return (cs.take 10, r)
  else none

/-- The point and the digits after it in a time: at most nine digits, and no nought at the
end unless it is the only one. -/
def secondFraction (ds : List Char) : List Char :=
  let kept := ((ds.take 9).reverse.dropWhile (· = '0')).reverse
  '.' :: (if kept.isEmpty then ['0'] else kept)

/-- The seconds of a time, after a colon, at the start of a text: their characters and the rest. -/
def seconds? (cs : List Char) : Option (List Char × List Char) := do
  let (second, r) ← fixed? 2 cs
  if second ≤ 60 then
    match r with
    | '.' :: f =>
        let ds := f.takeWhile Char.isDigit
        if ds.isEmpty then none
        else return (':' :: cs.take 2 ++ secondFraction ds, f.drop ds.length)
    | r => return (':' :: cs.take 2, r)
  else none

/-- A time of day, its seconds being optional, at the start of a text: its characters and
the rest. -/
def time? (cs : List Char) : Option (List Char × List Char) := do
  let (hour, r) ← fixed? 2 cs
  let (minute, r) ← fixed? 2 (← after? ':' r)
  if hour ≤ 23 ∧ minute ≤ 59 then
    match r with
    | ':' :: r => (seconds? r).map fun (seconds, r) => (cs.take 5 ++ seconds, r)
    | r => return (cs.take 5, r)
  else none

/-- The distance from universal time; it makes up the whole rest of a text, which may be
empty.  A distance of nought is not negative. -/
def offset? : List Char → Option (List Char)
  | [] => some []
  | ['Z'] | ['z'] => some ['Z']
  | c :: r => do
      if c ≠ '+' ∧ c ≠ '-' then none
      else
        let (hour, rest) ← fixed? 2 r
        let (minute, rest) ← fixed? 2 (← after? ':' rest)
        let sign := if hour = 0 ∧ minute = 0 then '+' else c
        if hour ≤ 23 ∧ minute ≤ 59 ∧ rest.isEmpty then return sign :: r.take 5 else none

/-- The text of a date, a time of day, or both. -/
def moment? (cs : List Char) : Option String :=
  match date? cs with
  | some (date, []) => some (String.ofList date)
  | some (date, c :: r) => do
      if c ≠ 'T' ∧ c ≠ 't' ∧ c ≠ ' ' then none
      else
        let (time, rest) ← time? r
        let offset ← offset? rest
        return String.ofList (date ++ 'T' :: time ++ offset)
  | none => do
      let (time, rest) ← time? cs
      if rest.isEmpty then return String.ofList time else none

/-- The value of a word that is not quoted; dates count as texts. -/
def plain? (cs : List Char) : Option Tree :=
  if cs = "true".toList then some (.truth true)
  else if cs = "false".toList then some (.truth false)
  else match number? cs with
    | some t => some t
    | none => (moment? cs).map .text

end Roster.Toml
