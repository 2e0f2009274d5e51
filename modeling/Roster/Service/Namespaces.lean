/-
Namespaces: what slugs stand for, groups and users alike.
-/
import Roster.Page
import Roster.Service.Users

namespace Roster

/-- A namespace as it is shown: a group, or a user under the full name. -/
structure Namespace.View where
  id : String
  kind : Namespace.Kind
  name : Option String
  slug : String
  createdBy : String
  createTime : Int
deriving DecidableEq, Repr

/-- The namespace of a group. -/
def Group.view (g : Group) : Namespace.View :=
  ⟨g.id, .group, some g.name, g.slug, g.createdBy, g.createTime⟩

/-- The namespace of a user. -/
def User.view (u : User) : Namespace.View :=
  ⟨u.namespaceId, .user, fullName u.firstName u.lastName, u.slug, u.id, u.createTime⟩

namespace Service.Namespaces

/-- Which elements of the list of groups a page shows, if the caller's own namespace
stands before them: whether the page starts with it, how many groups are passed
over, and how many are shown. -/
def groupWindow (page : Page.Request) : Bool × UInt64 × UInt64 :=
  let offset := page.offset
  if offset = 0 then (true, 0, page.perPage - 1) else (false, offset - 1, page.perPage)

/-- A page of the namespaces of the caller: the caller's own, then the groups in which
the caller has at least a role. -/
def list (c : Caller) (page : Page.Request) (minimum : Option Role) :
    Service (List Namespace.View × Page.Summary) := do
  let id ← requireLogin c
  let own ← Users.ensure c
  let roles := Role.atLeast (minimum.getD .viewer)
  let count ← call (.countMemberGroups id roles)
  let (withOwn, skip, limit) := groupWindow page
  let groups ←
    if limit = 0 then pure [] else call (.pageMemberGroups id roles skip limit)
  let first := if withOwn then [own.view] else []
  return (first ++ groups.map Group.view, page.summary (count + 1))

/-- The namespace with a slug. -/
def get (slug : String) : Service Namespace.View := do
  match ← call (.findNamespace slug) with
  | none => .fail (.namespaceUnknown slug)
  | some n =>
      match n.kind with
      | .group =>
          match ← call (.findGroup slug) with
          | some g => return g.view
          | none => .fail (.namespaceUnknown slug)
      | .user =>
          match n.userId with
          | none => .fail (.namespaceUnknown slug)
          | some userId =>
              match ← call (.findUser userId) with
              | some u => return u.view
              | none => .fail (.namespaceUnknown slug)

end Service.Namespaces

end Roster
