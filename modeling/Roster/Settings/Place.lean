/-
Places in a tree of settings.

A name such as `server.host` leads through tables, and `ids[0]` to an item of a
list.  Setting a value makes room for it: what stands in the way is replaced, and
a table is set entry by entry.
-/
import Roster.Settings.Tree

namespace Roster.Settings

/-- A step from a value to a part of it; items may be counted from the end. -/
inductive Step where
  | entry (name : String)
  | item (index : Int)
deriving DecidableEq, Repr

/-- A place: an entry of the outermost table and the steps from there. -/
structure Place where
  root : String
  steps : List Step
deriving DecidableEq, Repr

namespace Place

/-- The characters of names. -/
def isNameChar (c : Char) : Bool := c.isAlphanum || c == '_' || c == '-'

/-- A name at the start of a text, and the rest. -/
def name? (cs : List Char) : Option (String × List Char) :=
  let w := cs.takeWhile isNameChar
  if w.isEmpty then none else some (String.ofList w, cs.dropWhile isNameChar)

/-- The blanks in brackets. -/
def isBlank (c : Char) : Bool := c == ' ' || c == '\t'

/-- The number in brackets, a signed word; blanks may stand at both ends. -/
def index? (cs : List Char) : Option Int :=
  let inner := (cs.dropWhile isBlank).reverse.dropWhile isBlank |>.reverse
  let (negative, digits) := match inner with
    | '-' :: r => (true, r)
    | r => (false, r)
  if digits.isEmpty || !digits.all Char.isDigit then none
  else
    let n : Int := Text.naturalOf digits
    let index := if negative then -n else n
    if Decimal.isSigned index then some index else none

/-- The steps that a text spells, for at most `fuel` of them. -/
def steps? : Nat → List Char → Option (List Step)
  | _, [] => some []
  | 0, _ => none
  | fuel + 1, '.' :: r => do
      let (name, rest) ← name? r
      let steps ← steps? fuel rest
      return .entry name :: steps
  | fuel + 1, '[' :: r => do
      let index ← index? (r.takeWhile (· ≠ ']'))
      match r.dropWhile (· ≠ ']') with
      | _ :: rest => do
          let steps ← steps? fuel rest
          return .item index :: steps
      | [] => none
  | _, _ => none

/-- The place that a text spells; a text that spells none is the name of an entry. -/
def ofText (text : String) : Place :=
  let cs := text.toList
  let spelled := do
    let (root, rest) ← name? cs
    let steps ← steps? cs.length rest
    return { root, steps : Place }
  spelled.getD ⟨text, []⟩

/-- Changes the entry of a value, which becomes a table if it is none. -/
def atEntry (name : String) (change : Tree → Tree) (t : Tree) : Tree :=
  let entries := match t with
    | .table entries => entries
    | _ => []
  .table (Tree.putEntry entries name (change ((Tree.entry? entries name).getD .nothing)))

/-- Changes the item of a value, which becomes a list if it is none, long enough for the item. -/
def atItem (index : Int) (change : Tree → Tree) (t : Tree) : Tree :=
  let items := match t with
    | .list items => items
    | _ => []
  if 0 ≤ index then
    let i := index.toNat
    let long := items ++ List.replicate (i + 1 - items.length) .nothing
    .list (long.modify i change)
  else
    let missing := index.natAbs - items.length
    let long := List.replicate missing .nothing ++ items
    .list (long.modify (items.length - index.natAbs) change)

/-- Changes the value after some steps. -/
def follow (change : Tree → Tree) : List Step → Tree → Tree
  | [] => change
  | .entry name :: rest => atEntry name (follow change rest)
  | .item index :: rest => atItem index (follow change rest)

/-- Changes the value at a place. -/
def modify (p : Place) (change : Tree → Tree) : Tree → Tree :=
  atEntry p.root (follow change p.steps)

mutual

/-- A value put over an old one: a table keeps the old entries that it does not name. -/
def overlay (old : Tree) : Tree → Tree
  | .table entries =>
      let base := match old with
        | .table es => es
        | _ => []
      .table (overlayEntries base entries)
  | t => t

/-- Entries put over old ones, one after the other. -/
def overlayEntries (base : List (String × Tree)) : List (String × Tree) → List (String × Tree)
  | [] => base
  | (name, t) :: rest =>
      let old := (Tree.entry? base name).getD .nothing
      overlayEntries (Tree.putEntry base name (overlay old t)) rest

end

/-- Sets a value. -/
def put (name : String) (value t : Tree) : Tree :=
  (ofText name).modify (fun old => overlay old value) t

end Place

end Roster.Settings
