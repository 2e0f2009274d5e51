/-
Roles of the members of a group: owner above editor above viewer.
-/

namespace Roster

/-- What a member may do in a group. -/
inductive Role where
  | viewer
  | editor
  | owner
deriving DecidableEq, Repr, Inhabited

namespace Role

/-- Roles in ascending order. -/
def all : List Role := [.viewer, .editor, .owner]

/-- The place of a role in the order, from one. -/
def rank : Role → Nat
  | .viewer => 1
  | .editor => 2
  | .owner => 3

instance : LE Role := ⟨fun a b => a.rank ≤ b.rank⟩

instance (a b : Role) : Decidable (a ≤ b) := inferInstanceAs (Decidable (a.rank ≤ b.rank))

/-- The order of two roles. -/
def order (a b : Role) : Ordering := compare a.rank b.rank

instance : Max Role := ⟨fun a b => if a ≤ b then b else a⟩

instance : Min Role := ⟨fun a b => if a ≤ b then a else b⟩

/-- The roles not below `minimum`, in ascending order. -/
def atLeast (minimum : Role) : List Role := all.filter (minimum ≤ ·)

/-- The word for a role. -/
def name : Role → String
  | .viewer => "viewer"
  | .editor => "editor"
  | .owner => "owner"

/-- The role that a word stands for. -/
def ofName? (word : String) : Option Role := all.find? (·.name == word)

theorem mem_all (r : Role) : r ∈ all := by cases r <;> decide

theorem mem_atLeast {minimum r : Role} : r ∈ atLeast minimum ↔ minimum ≤ r := by
  simp [atLeast, mem_all]

theorem ofName?_name (r : Role) : ofName? r.name = some r := by cases r <;> decide

end Role

end Roster
