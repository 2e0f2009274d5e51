/-
Records as JSON.

How the records that the service keeps are written as JSON objects and read from
them.  The id of a record stands under the name `_id`.  A field that may be empty
is written as `null`, and may be left out where a record is read.
-/
import Roster.Caller
import Roster.Json.Decode

namespace Roster

open Json

/-- A text that may be missing. -/
def Json.optionalString (s : Option String) : Json := .orNull .string s

namespace Role

/-- The role that a value names. -/
def ofJson (source : Source) : Json → Decoded Role :=
  asVariant source (all.map name) ofName?

end Role

namespace Namespace.Kind

/-- The kind that a value names. -/
def ofJson (source : Source) : Json → Decoded Kind :=
  asVariant source (all.map name) ofName?

end Namespace.Kind

namespace Group

/-- A group as an object. -/
def toJson (g : Group) : Json :=
  .object
    [("_id", .string g.id), ("name", .string g.name), ("slug", .string g.slug),
     ("description", .optionalString g.description), ("created_by", .string g.createdBy),
     ("create_time", .int g.createTime), ("update_time", .int g.updateTime)]

/-- How a group is read. -/
def shape : Shape Group where
  name := "GroupEntity"
  fields := ["_id", "name", "slug", "description", "created_by", "create_time", "update_time"]
  required := ["_id", "name", "slug", "created_by", "create_time", "update_time"]
  start := {}
  set _ g
    | "_id", v => return { g with id := ← asString v }
    | "name", v => return { g with name := ← asString v }
    | "slug", v => return { g with slug := ← asString v }
    | "description", v => return { g with description := ← asOptionalString v }
    | "created_by", v => return { g with createdBy := ← asString v }
    | "create_time", v => return { g with createTime := ← asInteger v }
    | "update_time", v => return { g with updateTime := ← asInteger v }
    | _, _ => return g

end Group

namespace Member

/-- A membership as an object. -/
def toJson (m : Member) : Json :=
  .object
    [("_id", .string m.id), ("group_id", .string m.groupId), ("user_id", .string m.userId),
     ("role", .string m.role.name), ("create_time", .int m.createTime),
     ("update_time", .int m.updateTime)]

/-- How a membership is read. -/
def shape : Shape Member where
  name := "GroupMemberEntity"
  fields := ["_id", "group_id", "user_id", "role", "create_time", "update_time"]
  required := ["_id", "group_id", "user_id", "role", "create_time", "update_time"]
  start := {}
  set source m
    | "_id", v => return { m with id := ← asString v }
    | "group_id", v => return { m with groupId := ← asString v }
    | "user_id", v => return { m with userId := ← asString v }
    | "role", v => return { m with role := ← Role.ofJson source v }
    | "create_time", v => return { m with createTime := ← asInteger v }
    | "update_time", v => return { m with updateTime := ← asInteger v }
    | _, _ => return m

end Member

namespace User

/-- A user as an object. -/
def toJson (u : User) : Json :=
  .object
    [("_id", .string u.id), ("first_name", .optionalString u.firstName),
     ("last_name", .optionalString u.lastName), ("email", .optionalString u.email),
     ("namespace_id", .string u.namespaceId), ("slug", .string u.slug),
     ("create_time", .int u.createTime), ("update_time", .int u.updateTime)]

/-- How a user is read. -/
def shape : Shape User where
  name := "UserEntity"
  fields :=
    ["_id", "first_name", "last_name", "email", "namespace_id", "slug", "create_time",
     "update_time"]
  required := ["_id", "namespace_id", "slug", "create_time", "update_time"]
  start := {}
  set _ u
    | "_id", v => return { u with id := ← asString v }
    | "first_name", v => return { u with firstName := ← asOptionalString v }
    | "last_name", v => return { u with lastName := ← asOptionalString v }
    | "email", v => return { u with email := ← asOptionalString v }
    | "namespace_id", v => return { u with namespaceId := ← asString v }
    | "slug", v => return { u with slug := ← asString v }
    | "create_time", v => return { u with createTime := ← asInteger v }
    | "update_time", v => return { u with updateTime := ← asInteger v }
    | _, _ => return u

end User

namespace Namespace

/-- A namespace entry as an object. -/
def toJson (n : Namespace) : Json :=
  .object
    [("_id", .string n.id), ("slug", .string n.slug), ("kind", .string n.kind.name),
     ("group_id", .optionalString n.groupId), ("user_id", .optionalString n.userId),
     ("created_by", .string n.createdBy), ("create_time", .int n.createTime)]

/-- How a namespace entry is read. -/
def shape : Shape Namespace where
  name := "NamespaceEntity"
  fields := ["_id", "slug", "kind", "group_id", "user_id", "created_by", "create_time"]
  required := ["_id", "slug", "kind", "created_by", "create_time"]
  start := {}
  set source n
    | "_id", v => return { n with id := ← asString v }
    | "slug", v => return { n with slug := ← asString v }
    | "kind", v => return { n with kind := ← Kind.ofJson source v }
    | "group_id", v => return { n with groupId := ← asOptionalString v }
    | "user_id", v => return { n with userId := ← asOptionalString v }
    | "created_by", v => return { n with createdBy := ← asString v }
    | "create_time", v => return { n with createTime := ← asInteger v }
    | _, _ => return n

end Namespace

namespace Caller

/-- An identity as an object. -/
def toJson (c : Caller) : Json :=
  .object
    [("id", .optionalString c.id), ("is_admin", .bool c.isAdmin),
     ("first_name", .optionalString c.firstName), ("last_name", .optionalString c.lastName),
     ("email", .optionalString c.email)]

/-- How an identity is read; every field may be left out. -/
def shape : Shape Caller where
  name := "ApiUser"
  fields := ["id", "is_admin", "first_name", "last_name", "email"]
  required := []
  short := true
  start := {}
  set _ c
    | "id", v => return { c with id := ← asOptionalString v }
    | "is_admin", v => return { c with isAdmin := ← asBool v }
    | "first_name", v => return { c with firstName := ← asOptionalString v }
    | "last_name", v => return { c with lastName := ← asOptionalString v }
    | "email", v => return { c with email := ← asOptionalString v }
    | _, _ => return c

end Caller

end Roster
