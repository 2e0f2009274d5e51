/-
Reading a TOML document.
-/
import Roster.Toml.Plain
import Roster.Toml.Quote
import Roster.Toml.Tables

namespace Roster.Toml

open Settings (Tree)

/-! ## Names -/

/-- The characters of names without quotes. -/
def isNameChar (c : Char) : Bool := c.isAlphanum || c == '_' || c == '-'

/-- A name. -/
def name? : List Char → Option (String × List Char)
  | '"' :: r => basic? [] r
  | '\'' :: r => literal? r
  | cs =>
      let w := cs.takeWhile isNameChar
      if w.isEmpty then none else some (String.ofList w, cs.drop w.length)

/-- The most names that make up a path. -/
def maxNames : Nat := 80

/-- Names between dots, at most `fuel` of them. -/
def path? : Nat → List Char → Option (List String × List Char)
  | 0, _ => none
  | fuel + 1, cs => do
      let (name, r) ← name? cs
      match skipBlanks r with
      | '.' :: r => do
          let (rest, r) ← path? fuel (skipBlanks r)
          return (name :: rest, r)
      | r => return ([name], r)

/-! ## Values -/

/-- The most lists and tables that stand inside each other. -/
def maxDepth : Nat := 80

/-- The characters of words that are not quoted. -/
def isWordChar (c : Char) : Bool := c.isAlphanum || "+-._:".toList.contains c

/-- A word that is not quoted; between a date and a time of day may stand a space. -/
def word (cs : List Char) : List Char × List Char :=
  let w := cs.takeWhile isWordChar
  match date? w, cs.drop w.length with
  | some (_, []), ' ' :: c :: r =>
      if c.isDigit then
        let t := (c :: r).takeWhile isWordChar
        (w ++ ' ' :: t, (c :: r).drop t.length)
      else (w, ' ' :: c :: r)
  | _, r => (w, r)

mutual

/-- A value of at most `fuel` parts, in which at most `depth` lists and tables stand
inside each other. -/
def value? : Nat → Nat → List Char → Option (Tree × List Char)
  | 0, _, _ => none
  | fuel + 1, depth, cs =>
      match cs, depth with
      | '"' :: _, _ | '\'' :: _, _ => (quoted? cs).map fun (s, r) => (.text s, r)
      | '[' :: r, depth + 1 => (items? fuel depth [] r).map fun (ts, r) => (.list ts, r)
      | '{' :: r, depth + 1 => do
          let (pairs, r) ← pairs? fuel depth [] r
          let entries ← inlineEntries? pairs
          return (.table entries, r)
      | _, _ =>
          let (w, r) := word cs
          (plain? w).map fun t => (t, r)

/-- The items of a list up to its bracket, those read so far given last first. -/
def items? : Nat → Nat → List Tree → List Char → Option (List Tree × List Char)
  | 0, _, _, _ => none
  | fuel + 1, depth, seen, cs => do
      match ← skipFiller false cs with
      | ']' :: r => return (seen.reverse, r)
      | r => do
          let (t, r) ← value? fuel depth r
          match ← skipFiller false r with
          | ',' :: r => items? fuel depth (t :: seen) r
          | ']' :: r => return ((t :: seen).reverse, r)
          | _ => none

/-- The entries of a table in braces, those read so far given last first. -/
def pairs? : Nat → Nat → List (List String × Tree) → List Char →
    Option (List (List String × Tree) × List Char)
  | 0, _, _, _ => none
  | fuel + 1, depth, seen, cs => do
      match ← skipFiller false cs with
      | '}' :: r => return (seen.reverse, r)
      | r => do
          let (path, r) ← path? maxNames r
          match ← skipFiller false r with
          | '=' :: r => do
              let (t, r) ← value? fuel depth (← skipFiller false r)
              match ← skipFiller false r with
              | ',' :: r => pairs? fuel depth ((path, t) :: seen) r
              | '}' :: r => return (((path, t) :: seen).reverse, r)
              | _ => none
          | _ => none

end

/-! ## Lines -/

/-- A line that says something, and what follows it. -/
def line? (fuel : Nat) : List Char → Option (Line × List Char)
  | '[' :: '[' :: r => do
      let (path, r) ← path? maxNames (skipBlanks r)
      match r with
      | ']' :: ']' :: r => return (.nextHeader path, ← endOfLine? r)
      | _ => none
  | '[' :: r => do
      let (path, r) ← path? maxNames (skipBlanks r)
      match r with
      | ']' :: r => return (.header path, ← endOfLine? r)
      | _ => none
  | cs => do
      let (path, r) ← path? maxNames cs
      match r with
      | '=' :: r => do
          let (t, r) ← value? fuel maxDepth (skipBlanks r)
          return (.entry path t, ← endOfLine? r)
      | _ => none

/-- The lines that say something, at most `fuel` of them. -/
def lines (fuel : Nat) : Nat → List Char → Option (List Line)
  | 0, _ => none
  | n + 1, cs => do
      match ← skipFiller false cs with
      | [] => return []
      | r => do
          let (line, r) ← line? fuel r
          let rest ← lines fuel n r
          return line :: rest

/-- The entries of the outermost table of a document, before which one or two byte order
marks may stand. -/
def read? (text : String) : Option (List (String × Tree)) :=
  let cs := match text.toList with
    | '\ufeff' :: '\ufeff' :: r => r
    | '\ufeff' :: r => r
    | r => r
  let fuel := cs.length + 2
  (lines fuel fuel cs).bind documentEntries?

end Roster.Toml
