/-
The records that the service keeps.

A group, the membership of a user in a group, a user, and the entry that a slug
points to: one for every group and one for every user, since both share one space
of slugs.  Times are seconds since the start of 1970.
-/
import Roster.Role
import Roster.Text.Blank

namespace Roster

/-- A group. -/
structure Group where
  id : String := ""
  name : String := ""
  slug : String := ""
  description : Option String := none
  /-- The id of the user who created the group. -/
  createdBy : String := ""
  createTime : Int := 0
  updateTime : Int := 0
deriving DecidableEq, Repr, Inhabited

/-- The membership of a user in a group. -/
structure Member where
  id : String := ""
  groupId : String := ""
  userId : String := ""
  role : Role := .viewer
  createTime : Int := 0
  updateTime : Int := 0
deriving DecidableEq, Repr, Inhabited

/-- A user, with the profile that came with the last identity seen. -/
structure User where
  id : String := ""
  firstName : Option String := none
  lastName : Option String := none
  email : Option String := none
  /-- The id of the user's own namespace. -/
  namespaceId : String := ""
  slug : String := ""
  createTime : Int := 0
  updateTime : Int := 0
deriving DecidableEq, Repr, Inhabited

/-- What a namespace belongs to. -/
inductive Namespace.Kind where
  | group
  | user
deriving DecidableEq, Repr, Inhabited

/-- The entry that a slug points to. -/
structure Namespace where
  id : String := ""
  slug : String := ""
  kind : Namespace.Kind := .group
  groupId : Option String := none
  userId : Option String := none
  createdBy : String := ""
  createTime : Int := 0
deriving DecidableEq, Repr, Inhabited

namespace Namespace

namespace Kind

/-- The kinds of namespace. -/
def all : List Kind := [.group, .user]

/-- The word for a kind. -/
def name : Kind → String
  | .group => "group"
  | .user => "user"

/-- The kind that a word stands for. -/
def ofName? (word : String) : Option Kind := all.find? (·.name == word)

theorem ofName?_name (k : Kind) : ofName? k.name = some k := by cases k <;> decide

end Kind

end Namespace

/-- The id of the membership of a user in a group. -/
def Member.idOf (groupId userId : String) : String := groupId ++ "_" ++ userId

/-- A new membership. -/
def Member.new (groupId userId : String) (role : Role) (now : Int) : Member :=
  { id := Member.idOf groupId userId, groupId, userId, role, createTime := now, updateTime := now }

/-- The namespace of a group has the id of the group. -/
def Namespace.ofGroup (groupId slug createdBy : String) (createTime : Int) : Namespace :=
  { id := groupId, slug, kind := .group, groupId := some groupId, createdBy, createTime }

/-- The namespace of a user has an id of its own and is created by the user. -/
def Namespace.ofUser (namespaceId userId slug : String) (createTime : Int) : Namespace :=
  { id := namespaceId, slug, kind := .user, userId := some userId, createdBy := userId, createTime }

/-- The namespace entry of a group. -/
def Group.namespace (g : Group) : Namespace := .ofGroup g.id g.slug g.createdBy g.createTime

/-- The namespace entry of a user. -/
def User.namespace (u : User) : Namespace := .ofUser u.namespaceId u.id u.slug u.createTime

/-- First and last name without blank ends, joined by a space; `none` if both are blank. -/
def fullName (first last : Option String) : Option String :=
  let parts := ([first, last].filterMap id |>.map Text.trim).filter (· ≠ "")
  if parts.isEmpty then none else some (" ".intercalate parts)

/-- The full name in other words, where a missing part counts as an empty one. -/
theorem fullName_eq (first last : Option String) :
    fullName first last =
      let a := Text.trim (first.getD "")
      let b := Text.trim (last.getD "")
      if a = "" then if b = "" then none else some b
      else some (if b = "" then a else a ++ " " ++ b) := by
  have hempty : Text.trim "" = "" := by rfl
  have hparts : ([first, last].filterMap id |>.map Text.trim).filter (· ≠ "") =
      [Text.trim (first.getD ""), Text.trim (last.getD "")].filter (· ≠ "") := by
    cases first with
    | none => cases last <;> simp [hempty]
    | some _ => cases last <;> simp [hempty, List.filter_cons]
  rw [fullName, hparts]
  generalize Text.trim (first.getD "") = a
  generalize Text.trim (last.getD "") = b
  by_cases ha : a = ""
  · by_cases hb : b = ""
    · simp [ha, hb]
    · simp [ha, hb]
  · by_cases hb : b = ""
    · simp [ha, hb]
    · simp only [ha, hb, List.filter_cons, decide_true, not_false_eq_true, ne_eq,
        if_true, if_false, List.filter_nil, List.isEmpty_cons]
      rfl

end Roster
