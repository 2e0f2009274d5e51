/-
Who may do what.

A change to a group needs a caller with an id, and either an administrator or a
member whose role is high enough.  A service asks for these in the order in which
they are written here.
-/
import Roster.Caller
import Roster.Store.Call

namespace Roster.Service

/-- The id of the caller. -/
def requireLogin (c : Caller) : Service String :=
  match c.id with
  | some id => .done id
  | none => .fail .loginRequired

/-- The group with a slug. -/
def requireGroup (slug : String) : Service Group := do
  match ← call (.findGroup slug) with
  | some g => return g
  | none => .fail (.groupUnknown slug)

/-- Goes on if the caller is an administrator or has at least a role in the group. -/
def requireRole (g : Group) (c : Caller) (minimum : Role) : Service Unit := do
  let id ← requireLogin c
  if c.isAdmin then return ()
  else
    match ← call (.findMember g.id id) with
    | some m => if minimum ≤ m.role then return () else .fail (.roleRequired minimum g.slug)
    | none => .fail (.roleRequired minimum g.slug)

end Roster.Service
