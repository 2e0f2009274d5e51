/-
Members of a group: listing them, setting their roles and removing them.
-/
import Roster.Service.Access

namespace Roster

/-- The role that a user is to have in a group. -/
structure Member.Change where
  userId : String
  role : Role
deriving DecidableEq, Repr

/-- A member with the profile of the user, if the user is known. -/
structure Member.View where
  member : Member
  user : Option User
deriving DecidableEq, Repr

namespace Member

/-- Adds a change to those before it; one for the same user takes the new role. -/
def Change.merge (merged : List Change) (c : Change) : List Change :=
  if merged.any (·.userId == c.userId) then
    merged.map fun d => if d.userId = c.userId then { d with role := c.role } else d
  else merged ++ [c]

/-- One change for each user: in the place of the first one, with the role of the last. -/
def Change.mergeAll (changes : List Change) : List Change := changes.foldl Change.merge []

/-- Gives each member its profile; a profile is given out once. -/
def attach : List Member → List User → List View
  | [], _ => []
  | m :: rest, users =>
      ⟨m, users.find? (·.id == m.userId)⟩ :: attach rest (users.filter (·.id != m.userId))

end Member

namespace Service.Members

/-- The members of the group with a slug. -/
def list (slug : String) : Service (List Member.View) := do
  let group ← requireGroup slug
  let members ← call (.listMembers group.id)
  let users ← call (.findUsers (members.map (·.userId)))
  return Member.attach members users

/-- Sets the roles of members, adding those who are not members yet; answers the
changes as they were made. -/
def update (c : Caller) (slug : String) (changes : List Member.Change) :
    Service (List Member.Change) := do
  let _ ← requireLogin c
  let group ← requireGroup slug
  requireRole group c .owner
  let merged := Member.Change.mergeAll changes
  if merged.isEmpty then return merged
  else
    let time ← now
    call (.upsertMembers group.id (merged.map fun d => .new group.id d.userId d.role time))
    return merged

/-- Removes a member; that the user is no member is no failure.  A caller may always
remove itself. -/
def remove (c : Caller) (slug userId : String) : Service Unit := do
  let callerId ← requireLogin c
  let group ← requireGroup slug
  if callerId ≠ userId then requireRole group c .owner
  let _ ← call (.deleteMember group.id userId)
  return ()

end Service.Members

end Roster
