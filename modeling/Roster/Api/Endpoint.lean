/-
Endpoints: what a method and a path below a base path lead to.
-/
import Roster.Http.Path

namespace Roster.Api

/-- What a request can be about. -/
inductive Endpoint where
  | description
  | version
  | listGroups
  | createGroup
  | getGroup (slug : String)
  | patchGroup (slug : String)
  | deleteGroup (slug : String)
  | listMembers (slug : String)
  | patchMembers (slug : String)
  | removeMember (slug userId : String)
  | listNamespaces
  | getNamespace (slug : String)
  | ownUser
  | listUsers
  | getUser (id : String)
deriving DecidableEq, Repr

namespace Endpoint

open Http.Path (segmentValue)

/-- The endpoint of a method and the segments of a path. -/
def ofSegments? : String → List String → Option Endpoint
  | "GET", ["spec.json"] => some .description
  | "GET", ["version"] => some .version
  | "GET", ["groups"] => some .listGroups
  | "POST", ["groups"] => some .createGroup
  | "GET", ["groups", slug] => some (.getGroup (segmentValue slug))
  | "PATCH", ["groups", slug] => some (.patchGroup (segmentValue slug))
  | "DELETE", ["groups", slug] => some (.deleteGroup (segmentValue slug))
  | "GET", ["groups", slug, "members"] => some (.listMembers (segmentValue slug))
  | "PATCH", ["groups", slug, "members"] => some (.patchMembers (segmentValue slug))
  | "DELETE", ["groups", slug, "members", userId] =>
      some (.removeMember (segmentValue slug) (segmentValue userId))
  | "GET", ["namespaces"] => some .listNamespaces
  | "GET", ["namespaces", slug] => some (.getNamespace (segmentValue slug))
  | "GET", ["user"] => some .ownUser
  | "GET", ["users"] => some .listUsers
  | "GET", ["users", id] => some (.getUser (segmentValue id))
  | _, _ => none

/-- The endpoint of a method and what follows the base path; no segment is empty. -/
def of? (method : String) (rest : List Char) : Option Endpoint :=
  match Http.Path.segments? rest with
  | some segments =>
      if segments.contains "" then none else ofSegments? method segments
  | none => none

/-- The paths below which the interface can be reached. -/
def basePaths : List String := ["/api/data", "/ui-server/api/data"]

/-- What follows the base path of a path that lies at or below one. -/
def insideBase? (path : String) : Option (List Char) :=
  basePaths.findSome? fun base =>
    Http.Path.below? base.toList (Http.Path.matched path).toList

end Endpoint

end Roster.Api
