/-
Records as documents.

How the records are kept in a document database.  Reading back a document that
was made of a record gives the record.
-/
import Roster.Document.Basic
import Roster.Record

namespace Roster

namespace Document

/-- The text with a name. -/
def text? (d : Document) (name : String) : Option String :=
  match d.get name with
  | .text s => some s
  | _ => none

/-- The text with a name, which may be null. -/
def optionalText? (d : Document) (name : String) : Option (Option String) :=
  match d.get name with
  | .text s => some (some s)
  | .null => some none
  | .int _ => none

/-- The number with a name. -/
def int? (d : Document) (name : String) : Option Int :=
  match d.get name with
  | .int n => some n
  | _ => none

end Document

open Document (Value)

namespace Group

/-- The document of a group. -/
def toDocument (g : Group) : Document :=
  [("_id", .text g.id), ("name", .text g.name), ("slug", .text g.slug),
   ("description", .ofOption g.description), ("created_by", .text g.createdBy),
   ("create_time", .int g.createTime), ("update_time", .int g.updateTime)]

/-- The group in a document. -/
def ofDocument? (d : Document) : Option Group := do
  let id ← d.text? "_id"
  let name ← d.text? "name"
  let slug ← d.text? "slug"
  let description ← d.optionalText? "description"
  let createdBy ← d.text? "created_by"
  let createTime ← d.int? "create_time"
  let updateTime ← d.int? "update_time"
  return { id, name, slug, description, createdBy, createTime, updateTime }

theorem ofDocument?_toDocument (g : Group) : ofDocument? g.toDocument = some g := by
  cases g with
  | mk id name slug description createdBy createTime updateTime =>
    cases description <;> rfl

end Group

namespace Member

/-- The document of a membership. -/
def toDocument (m : Member) : Document :=
  [("_id", .text m.id), ("group_id", .text m.groupId), ("user_id", .text m.userId),
   ("role", .text m.role.name), ("create_time", .int m.createTime),
   ("update_time", .int m.updateTime)]

/-- The membership in a document. -/
def ofDocument? (d : Document) : Option Member := do
  let id ← d.text? "_id"
  let groupId ← d.text? "group_id"
  let userId ← d.text? "user_id"
  let role ← (← d.text? "role") |> Role.ofName?
  let createTime ← d.int? "create_time"
  let updateTime ← d.int? "update_time"
  return { id, groupId, userId, role, createTime, updateTime }

theorem ofDocument?_toDocument (m : Member) : ofDocument? m.toDocument = some m := by
  cases m with
  | mk id groupId userId role createTime updateTime => cases role <;> rfl

end Member

namespace User

/-- The document of a user. -/
def toDocument (u : User) : Document :=
  [("_id", .text u.id), ("first_name", .ofOption u.firstName),
   ("last_name", .ofOption u.lastName), ("email", .ofOption u.email),
   ("namespace_id", .text u.namespaceId), ("slug", .text u.slug),
   ("create_time", .int u.createTime), ("update_time", .int u.updateTime)]

/-- The user in a document. -/
def ofDocument? (d : Document) : Option User := do
  let id ← d.text? "_id"
  let firstName ← d.optionalText? "first_name"
  let lastName ← d.optionalText? "last_name"
  let email ← d.optionalText? "email"
  let namespaceId ← d.text? "namespace_id"
  let slug ← d.text? "slug"
  let createTime ← d.int? "create_time"
  let updateTime ← d.int? "update_time"
  return { id, firstName, lastName, email, namespaceId, slug, createTime, updateTime }

theorem ofDocument?_toDocument (u : User) : ofDocument? u.toDocument = some u := by
  cases u with
  | mk id firstName lastName email namespaceId slug createTime updateTime =>
    cases firstName <;> cases lastName <;> cases email <;> rfl

end User

namespace Namespace

/-- The document of a namespace entry. -/
def toDocument (n : Namespace) : Document :=
  [("_id", .text n.id), ("slug", .text n.slug), ("kind", .text n.kind.name),
   ("group_id", .ofOption n.groupId), ("user_id", .ofOption n.userId),
   ("created_by", .text n.createdBy), ("create_time", .int n.createTime)]

/-- The namespace entry in a document. -/
def ofDocument? (d : Document) : Option Namespace := do
  let id ← d.text? "_id"
  let slug ← d.text? "slug"
  let kind ← (← d.text? "kind") |> Kind.ofName?
  let groupId ← d.optionalText? "group_id"
  let userId ← d.optionalText? "user_id"
  let createdBy ← d.text? "created_by"
  let createTime ← d.int? "create_time"
  return { id, slug, kind, groupId, userId, createdBy, createTime }

theorem ofDocument?_toDocument (n : Namespace) : ofDocument? n.toDocument = some n := by
  cases n with
  | mk id slug kind groupId userId createdBy createTime =>
    cases kind <;> cases groupId <;> cases userId <;> rfl

end Namespace

end Roster
