/-
Blanks, comments and quoted texts of TOML.

Each function takes characters from the start of a text and hands back the rest.
-/
import Roster.Text.Digit

namespace Roster.Toml

/-- The blanks within a line. -/
def isBlank (c : Char) : Bool := c == ' ' || c == '\t'

/-- Control characters stand in no comment and in no quoted text, save tabs. -/
def isPlain (c : Char) : Bool := c == '\t' || (0x20 ≤ c.toNat && c.toNat ≠ 0x7f)

/-- What follows the blanks. -/
def skipBlanks (cs : List Char) : List Char := cs.dropWhile isBlank

/-- What follows a line end. -/
def afterNewline? : List Char → Option (List Char)
  | '\n' :: r => some r
  | '\r' :: '\n' :: r => some r
  | _ => none

/-- What follows the end of a line, before which blanks and a comment may stand. -/
def endOfLine? (cs : List Char) : Option (List Char) :=
  let r := match skipBlanks cs with
    | '#' :: r => r.dropWhile isPlain
    | r => r
  match r with
  | [] => some []
  | r => afterNewline? r

/-- What follows blanks, line ends and comments, within a comment or not. -/
def skipFiller : Bool → List Char → Option (List Char)
  | _, [] => some []
  | _, '\n' :: r => skipFiller false r
  | _, '\r' :: '\n' :: r => skipFiller false r
  | true, c :: r => if isPlain c then skipFiller true r else none
  | false, c :: r =>
      if c = '#' then skipFiller true r
      else if isBlank c then skipFiller false r
      else some (c :: r)

/-! ## Escapes -/

/-- The character with a number given in hexadecimal digits. -/
def hexChar? (cs : List Char) : Option Char :=
  (Text.hexNatural? cs).bind fun n => if n.isValidChar then some (Char.ofNat n) else none

/-- The character that a letter after a backslash stands for. -/
def escaped? : Char → Option Char
  | 'b' => some '\x08'
  | 'e' => some '\x1b'
  | 't' => some '\t'
  | 'n' => some '\n'
  | 'f' => some '\x0c'
  | 'r' => some '\r'
  | '"' => some '"'
  | '\\' => some '\\'
  | _ => none

/-! ## Quoted texts -/

/-- The text up to a double quote, what has been read of it given last first. -/
def basic? (seen : List Char) : List Char → Option (String × List Char)
  | [] => none
  | '"' :: r => some (String.ofList seen.reverse, r)
  | '\\' :: 'x' :: a :: b :: r =>
      match hexChar? [a, b] with
      | some x => basic? (x :: seen) r
      | none => none
  | '\\' :: 'u' :: a :: b :: c :: d :: r =>
      match hexChar? [a, b, c, d] with
      | some x => basic? (x :: seen) r
      | none => none
  | '\\' :: 'U' :: a :: b :: c :: d :: e :: f :: g :: h :: r =>
      match hexChar? [a, b, c, d, e, f, g, h] with
      | some x => basic? (x :: seen) r
      | none => none
  | '\\' :: c :: r =>
      match escaped? c with
      | some x => basic? (x :: seen) r
      | none => none
  | c :: r => if isPlain c && c ≠ '\\' then basic? (c :: seen) r else none

/-- The text up to a single quote. -/
def literal? (cs : List Char) : Option (String × List Char) :=
  let w := cs.takeWhile fun c => c ≠ '\'' && isPlain c
  match cs.drop w.length with
  | '\'' :: r => some (String.ofList w, r)
  | _ => none

/-- Up to two quotes may stand right before the three that end a text of several lines. -/
def closing? (quote : Char) (seen cs : List Char) : Option (String × List Char) :=
  let run := cs.takeWhile (· = quote)
  let extra := min (run.length - 3) 2
  if run.length < 3 then none
  else some (String.ofList (seen.reverse ++ List.replicate extra quote), cs.drop (extra + 3))

/-- Where the reading of a text of several lines stands. -/
inductive Fold where
  | inside
  /-- After a backslash that has only blanks behind it so far. -/
  | broken
  /-- After such a backslash and the end of its line. -/
  | skipping

/-- The text up to three double quotes.  A backslash at the end of a line takes away all
blanks and line ends that follow. -/
def lines? (fold : Fold) (seen : List Char) : List Char → Option (String × List Char)
  | [] => none
  | '\r' :: '\n' :: r =>
      match fold with
      | .inside => lines? .inside ('\n' :: '\r' :: seen) r
      | _ => lines? .skipping seen r
  | '\\' :: 'x' :: a :: b :: r =>
      match fold, hexChar? [a, b] with
      | .broken, _ => none
      | _, some x => lines? .inside (x :: seen) r
      | _, none => none
  | '\\' :: 'u' :: a :: b :: c :: d :: r =>
      match fold, hexChar? [a, b, c, d] with
      | .broken, _ => none
      | _, some x => lines? .inside (x :: seen) r
      | _, none => none
  | '\\' :: 'U' :: a :: b :: c :: d :: e :: f :: g :: h :: r =>
      match fold, hexChar? [a, b, c, d, e, f, g, h] with
      | .broken, _ => none
      | _, some x => lines? .inside (x :: seen) r
      | _, none => none
  | '\\' :: c :: r =>
      match fold with
      | .broken => none
      | _ =>
          if isBlank c then lines? .broken seen r
          else if c = '\n' then lines? .skipping seen r
          else if c = '\r' then match r with
            | '\n' :: r => lines? .skipping seen r
            | _ => none
          else match escaped? c with
            | some x => lines? .inside (x :: seen) r
            | none => none
  | c :: r =>
      match fold with
      | .broken =>
          if isBlank c then lines? .broken seen r
          else if c = '\n' then lines? .skipping seen r
          else none
      | .skipping =>
          if isBlank c || c = '\n' then lines? .skipping seen r
          else if c = '"' then match closing? '"' seen (c :: r) with
            | some found => some found
            | none => lines? .inside (c :: seen) r
          else if isPlain c && c ≠ '\\' then lines? .inside (c :: seen) r
          else none
      | .inside =>
          if c = '"' then match closing? '"' seen (c :: r) with
            | some found => some found
            | none => lines? .inside (c :: seen) r
          else if c = '\n' || (isPlain c && c ≠ '\\') then lines? .inside (c :: seen) r
          else none

/-- The text up to three single quotes. -/
def literalLines? (seen : List Char) : List Char → Option (String × List Char)
  | [] => none
  | '\r' :: '\n' :: r => literalLines? ('\n' :: '\r' :: seen) r
  | c :: r =>
      if c = '\'' then match closing? '\'' seen (c :: r) with
        | some found => some found
        | none => literalLines? (c :: seen) r
      else if c = '\n' || isPlain c then literalLines? (c :: seen) r
      else none

/-- What follows a line end right after the opening quotes. -/
def afterOpening (cs : List Char) : List Char := (afterNewline? cs).getD cs

/-- A quoted text of any kind. -/
def quoted? : List Char → Option (String × List Char)
  | '"' :: '"' :: '"' :: r => lines? .inside [] (afterOpening r)
  | '"' :: r => basic? [] r
  | '\'' :: '\'' :: '\'' :: r => literalLines? [] (afterOpening r)
  | '\'' :: r => literal? r
  | _ => none

end Roster.Toml
