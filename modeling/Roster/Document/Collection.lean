/-
Collections and their indexes.
-/

namespace Roster.Document

/-- The collections of the database. -/
inductive Collection where
  | groups
  | members
  | namespaces
  | users
deriving DecidableEq, Repr

/-- An index over ascending values. -/
structure Index where
  fields : List String
  /-- No two documents of the collection have the same values. -/
  unique : Bool
deriving DecidableEq, Repr

namespace Collection

/-- All collections, in the order in which they are set up. -/
def all : List Collection := [.groups, .members, .namespaces, .users]

/-- The name of a collection in the database. -/
def name : Collection → String
  | .groups => "groups"
  | .members => "group_members"
  | .namespaces => "namespaces"
  | .users => "users"

/-- The indexes of a collection, besides the one over the ids. -/
def indexes : Collection → List Index
  | .groups => [⟨["slug"], true⟩, ⟨["create_time", "_id"], false⟩]
  | .members => [⟨["group_id", "user_id"], true⟩, ⟨["user_id"], false⟩]
  | .namespaces => [⟨["slug"], true⟩, ⟨["user_id"], false⟩]
  | .users => [⟨["email"], false⟩]

/-- The lists of fields whose values no two documents of a collection share. -/
def uniqueKeys (c : Collection) : List (List String) :=
  ["_id"] :: (c.indexes.filter (·.unique)).map (·.fields)

end Collection

end Roster.Document
