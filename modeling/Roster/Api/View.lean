/-
What clients read.

Groups, members, namespaces and users as they stand in the bodies of responses.
Fields without a value are left out.
-/
import Roster.Calendar
import Roster.Record.Shape
import Roster.Service.Members
import Roster.Service.Namespaces

namespace Roster

open Json

/-- A group as a client reads it. -/
def Group.response (g : Group) : Json :=
  .record
    [("id", some (.string g.id)), ("name", some (.string g.name)), ("slug", some (.string g.slug)),
     ("creation_date", some (.string (Calendar.isoText g.createTime))),
     ("created_by", some (.string g.createdBy)), ("description", g.description.map .string)]

/-- A member as a client reads it. -/
def Member.View.response (v : Member.View) : Json :=
  .record
    [("id", some (.string v.member.userId)), ("role", some (.string v.member.role.name)),
     ("namespace", v.user.map fun u => .string u.slug),
     ("first_name", (v.user.bind (·.firstName)).map .string),
     ("last_name", (v.user.bind (·.lastName)).map .string)]

/-- A change of a member as a client reads it. -/
def Member.Change.response (c : Member.Change) : Json :=
  .object [("id", .string c.userId), ("role", .string c.role.name)]

/-- A namespace as a client reads it. -/
def Namespace.View.response (n : Namespace.View) : Json :=
  .record
    [("id", some (.string n.id)), ("name", n.name.map .string), ("slug", some (.string n.slug)),
     ("creation_date", some (.string (Calendar.isoText n.createTime))),
     ("created_by", some (.string n.createdBy)), ("namespace_kind", some (.string n.kind.name))]

/-- A user as a client reads it; only callers who ask for themselves learn whether they
are administrators. -/
def User.response (u : User) (isAdmin : Option Bool := none) : Json :=
  .record
    [("id", some (.string u.id)), ("username", some (.string u.slug)),
     ("email", u.email.map .string), ("first_name", u.firstName.map .string),
     ("last_name", u.lastName.map .string), ("is_admin", isAdmin.map .bool)]

end Roster
