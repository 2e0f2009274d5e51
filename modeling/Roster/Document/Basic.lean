/-
Documents, and conditions on them.

A document is a list of named values; a value that is not there counts as null.
Values are ordered: null before numbers before texts.
-/

namespace Roster

/-- A value in a document. -/
inductive Document.Value where
  | null
  | int (n : Int)
  | text (s : String)
deriving DecidableEq, Repr, Inhabited

/-- Named values; of values with the same name the first one counts. -/
abbrev Document := List (String × Document.Value)

namespace Document

namespace Value

/-- A text that may be missing. -/
def ofOption : Option String → Value
  | some s => .text s
  | none => .null

/-- The order of values. -/
def le : Value → Value → Bool
  | .null, _ => true
  | _, .null => false
  | .int m, .int n => m ≤ n
  | .int _, .text _ => true
  | .text _, .int _ => false
  | .text s, .text t => s ≤ t

end Value

/-- The value with a name. -/
def get (d : Document) (name : String) : Value :=
  match d.find? (·.1 == name) with
  | some (_, v) => v
  | none => .null

/-- Sets one value. -/
def put (d : Document) (name : String) (v : Value) : Document :=
  if d.any (·.1 == name) then d.map fun p => if p.1 = name then (name, v) else p
  else d ++ [(name, v)]

/-- Sets the values of another document. -/
def putAll (d changes : Document) : Document :=
  changes.foldl (fun d (name, v) => d.put name v) d

/-- A condition on a value. -/
inductive Condition where
  | equals (v : Value)
  | oneOf (vs : List Value)
deriving DecidableEq, Repr

/-- A value meets a condition. -/
def Condition.holds : Condition → Value → Bool
  | .equals v, w => v == w
  | .oneOf vs, w => vs.contains w

/-- Conditions on named values. -/
abbrev Filter := List (String × Condition)

/-- A document meets all conditions. -/
def meets (f : Filter) (d : Document) : Bool := f.all fun (name, c) => c.holds (d.get name)

/-- The values that a filter fixes. -/
def ofFilter (f : Filter) : Document :=
  f.filterMap fun (name, c) => match c with
    | .equals v => some (name, v)
    | .oneOf _ => none

/-- The order of two documents by the values with the given names, the first name first. -/
def leBy : List String → Document → Document → Bool
  | [], _, _ => true
  | name :: rest, d, e =>
      let v := d.get name
      let w := e.get name
      if v = w then leBy rest d e else v.le w

/-- Documents in ascending order; those with the same values keep their order. -/
def sortBy (names : List String) (ds : List Document) : List Document :=
  ds.mergeSort (leBy names)

end Document

end Roster
