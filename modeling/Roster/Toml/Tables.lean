/-
The tables of a TOML document.

A document builds its tables line by line, and none is defined twice.  What a
table may still take depends on how it came about.
-/
import Roster.Settings.Tree

namespace Roster.Toml

open Settings (Tree)

/-- How a table came about. -/
inductive Origin where
  /-- By a header of its own. -/
  | header
  /-- On the way to the table of another header. -/
  | passed
  /-- By a name with dots. -/
  | dotted
deriving DecidableEq, Repr

/-- What stands under a name. -/
inductive Node where
  | leaf (t : Tree)
  | branch (origin : Origin) (entries : List (String × Node))
  /-- A list of tables, the last one first. -/
  | series (reversed : List (List (String × Node)))

/-- The entries of a table. -/
abbrev Entries := List (String × Node)

namespace Entries

/-- What stands under a name. -/
def get? (es : Entries) (name : String) : Option Node := (es.find? (·.1 == name)).map (·.2)

/-- Replaces what stands under a name. -/
def replace (es : Entries) (name : String) (n : Node) : Entries :=
  es.map fun e => if e.1 = name then (name, n) else e

/-- Adds a value under a path of names, making tables on the way.  The way leads past
tables without a header of their own, but the value itself goes to a table that came
about by names with dots. -/
def assign (t : Tree) : List String → Entries → Option Entries
  | [], _ => none
  | [name], es => if (get? es name).isSome then none else some (es ++ [(name, .leaf t)])
  | name :: rest, es =>
      match get? es name with
      | none => (assign t rest []).map fun inner => es ++ [(name, .branch .dotted inner)]
      | some (.branch .dotted inner) =>
          (assign t rest inner).map fun inner => replace es name (.branch .dotted inner)
      | some (.branch .passed inner) =>
          if rest.length ≤ 1 then none
          else (assign t rest inner).map fun inner => replace es name (.branch .passed inner)
      | some (.series (last :: before)) =>
          if rest.length ≤ 1 then none
          else (assign t rest last).map fun last => replace es name (.series (last :: before))
      | some (.branch .header _) | some (.series []) | some (.leaf _) => none

/-- Changes what stands under the last name of a path, making tables on the way. -/
def descend (change : Entries → String → Option Entries) : List String → Entries → Option Entries
  | [], _ => none
  | [name], es => change es name
  | name :: rest, es =>
      match get? es name with
      | none => (descend change rest []).map fun inner => es ++ [(name, .branch .passed inner)]
      | some (.branch origin inner) =>
          (descend change rest inner).map fun inner => replace es name (.branch origin inner)
      | some (.series (last :: before)) =>
          (descend change rest last).map fun last => replace es name (.series (last :: before))
      | some (.series []) | some (.leaf _) => none

/-- Opens the table of a header. -/
def openTable (es : Entries) (name : String) : Option Entries :=
  match get? es name with
  | none => some (es ++ [(name, .branch .header [])])
  | some (.branch .passed inner) => some (replace es name (.branch .header inner))
  | some _ => none

/-- Opens the next table of a list. -/
def openNext (es : Entries) (name : String) : Option Entries :=
  match get? es name with
  | none => some (es ++ [(name, .series [[]])])
  | some (.series tables) => some (replace es name (.series ([] :: tables)))
  | some _ => none

/-- Changes the table of a header. -/
def within (change : Entries → Option Entries) : List String → Entries → Option Entries
  | [], es => change es
  | name :: rest, es =>
      match get? es name with
      | some (.branch origin inner) =>
          (within change rest inner).map fun inner => replace es name (.branch origin inner)
      | some (.series (last :: before)) =>
          (within change rest last).map fun last => replace es name (.series (last :: before))
      | _ => none

end Entries

mutual

/-- The value of a node. -/
def Node.tree : Node → Tree
  | .leaf t => t
  | .branch _ entries => .table (entryTrees entries)
  | .series reversed => .list (seriesTrees reversed).reverse

/-- The values of entries. -/
def entryTrees : List (String × Node) → List (String × Tree)
  | [] => []
  | (name, n) :: rest => (name, n.tree) :: entryTrees rest

/-- The values of a list of tables. -/
def seriesTrees : List (List (String × Node)) → List Tree
  | [] => []
  | es :: rest => .table (entryTrees es) :: seriesTrees rest

end

/-- A line of a document. -/
inductive Line where
  | header (path : List String)
  | nextHeader (path : List String)
  | entry (path : List String) (value : Tree)

/-- A document in the making: the path of the last header, and the outermost table. -/
structure Draft where
  path : List String := []
  entries : Entries := []

/-- Adds a line; `none` if it defines something twice. -/
def Draft.add (d : Draft) : Line → Option Draft
  | .header path => (Entries.descend Entries.openTable path d.entries).map fun es => ⟨path, es⟩
  | .nextHeader path => (Entries.descend Entries.openNext path d.entries).map fun es => ⟨path, es⟩
  | .entry path value =>
      (Entries.within (Entries.assign value path) d.path d.entries).map fun es =>
        { d with entries := es }

/-- The entries of a table within a line. -/
def inlineEntries? (entries : List (List String × Tree)) : Option (List (String × Tree)) :=
  (entries.foldlM (fun es (path, value) => Entries.assign value path es) []).map entryTrees

/-- The entries of the document with these lines. -/
def documentEntries? (lines : List Line) : Option (List (String × Tree)) :=
  (lines.foldlM Draft.add {}).map fun d => entryTrees d.entries

end Roster.Toml
