/-
The store in memory.

Four tables: groups and users by id, memberships by their own id, and namespaces
by slug.  Every call is answered in one step, from one state and with one new
state.
-/
import Roster.Store.Call
import Roster.Store.Order
import Roster.Store.Table

namespace Roster.Store

/-- The contents of the store. -/
structure Memory where
  groups : Table Group := {}
  members : Table Member := {}
  namespaces : Table Namespace := {}
  users : Table User := {}
deriving Repr, DecidableEq, Inhabited

/-- Groups are listed by creation time and id. -/
def groupKey (g : Group) : SortKey := (g.createTime, g.id)

/-- Members of a group are listed by creation time and user id. -/
def memberKey (m : Member) : SortKey := (m.createTime, m.userId)

/-- Users are listed by creation time and id. -/
def userKey (u : User) : SortKey := (u.createTime, u.id)

/-- The elements after the first `skip`, at most `limit` of them. -/
def window (skip limit : UInt64) (l : List α) : List α := (l.drop skip.toNat).take limit.toNat

namespace Memory

/-! ## Reading -/

/-- The number of groups. -/
def countGroups (s : Memory) : UInt64 := s.groups.size.toUInt64

/-- A part of the list of all groups. -/
def pageGroups (s : Memory) (skip limit : UInt64) : List Group :=
  window skip limit (sortOn groupKey s.groups.values)

/-- The group with a slug. -/
def findGroup (s : Memory) (slug : String) : Option Group :=
  s.groups.values.find? (·.slug == slug)

/-- The members of a group. -/
def listMembers (s : Memory) (groupId : String) : List Member :=
  sortOn memberKey (s.members.values.filter (·.groupId == groupId))

/-- The membership of a user in a group. -/
def findMember (s : Memory) (groupId userId : String) : Option Member :=
  s.members.get? (Member.idOf groupId userId)

/-- The ids of the groups in which a user has one of the roles. -/
def memberGroupIds (s : Memory) (userId : String) (roles : List Role) : List String :=
  (s.members.values.filter fun m => m.userId == userId && roles.contains m.role).map (·.groupId)

/-- The groups in which a user has one of the roles. -/
def memberGroups (s : Memory) (userId : String) (roles : List Role) : List Group :=
  let ids := s.memberGroupIds userId roles
  s.groups.values.filter fun g => ids.contains g.id

/-- The number of groups in which a user has one of the roles. -/
def countMemberGroups (s : Memory) (userId : String) (roles : List Role) : UInt64 :=
  (s.memberGroups userId roles).length.toUInt64

/-- A part of the list of groups in which a user has one of the roles. -/
def pageMemberGroups (s : Memory) (userId : String) (roles : List Role) (skip limit : UInt64) :
    List Group :=
  window skip limit (sortOn groupKey (s.memberGroups userId roles))

/-- The users with the given ids, in the order of the ids. -/
def findUsers (s : Memory) (ids : List String) : List User := ids.filterMap s.users.get?

/-- All users, or those with an email address. -/
def listUsers (s : Memory) (email : Option String) : List User :=
  sortOn userKey (s.users.values.filter fun u => email.isNone || u.email == email)

/-! ## Writing -/

/-- Adds a group with its namespace and its first member. -/
def insertGroup (s : Memory) (g : Group) (owner : Member) : Except Fault Memory :=
  if s.namespaces.contains g.slug then .error (.slugTaken g.slug)
  else if s.groups.contains g.id then .error (.groupIdTaken g.id)
  else .ok
    { s with
      namespaces := s.namespaces.insert g.slug g.namespace
      groups := s.groups.insert g.id g
      members := s.members.insert owner.id owner }

/-- Puts the namespace under a slug under another one. -/
def renameNamespace (t : Table Namespace) (old new : String) : Table Namespace :=
  match t.get? old with
  | some n => (t.erase old).insert new { n with slug := new }
  | none => t

/-- A group with the name, slug, description and update time of another. -/
def withTextsOf (old new : Group) : Group :=
  { old with
    name := new.name, slug := new.slug, description := new.description,
    updateTime := new.updateTime }

/-- Sets what may change in a group. -/
def updateGroup (s : Memory) (g : Group) : Except Fault Memory :=
  match s.groups.get? g.id with
  | none => .error (.groupIdUnknown g.id)
  | some old =>
      if old.slug = g.slug then
        .ok { s with groups := s.groups.insert g.id (withTextsOf old g) }
      else if s.namespaces.contains g.slug then .error (.slugTaken g.slug)
      else .ok
        { s with
          namespaces := renameNamespace s.namespaces old.slug g.slug
          groups := s.groups.insert g.id (withTextsOf old g) }

/-- Takes away a group with its namespace and its members. -/
def deleteGroup (s : Memory) (id : String) : Bool × Memory :=
  match s.groups.get? id with
  | none => (false, s)
  | some g =>
      (true,
        { s with
          groups := s.groups.erase id
          namespaces := s.namespaces.erase g.slug
          members := s.members.filter fun _ m => m.groupId ≠ id })

/-- Sets role and update time of a membership that is known, and adds one that is not. -/
def upsertMember (t : Table Member) (m : Member) : Table Member :=
  match t.get? m.id with
  | some old => t.insert m.id { old with role := m.role, updateTime := m.updateTime }
  | none => t.insert m.id m

/-- Sets or adds memberships one after the other. -/
def upsertMembers (s : Memory) (groupId : String) (members : List Member) : Except Fault Memory :=
  if s.groups.contains groupId then
    .ok { s with members := members.foldl upsertMember s.members }
  else .error (.groupIdUnknown groupId)

/-- Takes away the membership of a user in a group. -/
def deleteMember (s : Memory) (groupId userId : String) : Bool × Memory :=
  let id := Member.idOf groupId userId
  (s.members.contains id, { s with members := s.members.erase id })

/-- Adds a user with its namespace. -/
def insertUser (s : Memory) (u : User) : Except Fault Memory :=
  if s.namespaces.contains u.slug then .error (.slugTaken u.slug)
  else if s.users.contains u.id then .error (.userIdTaken u.id)
  else .ok
    { s with
      namespaces := s.namespaces.insert u.slug u.namespace
      users := s.users.insert u.id u }

/-- A user with the profile and update time of another. -/
def withProfileOf (old new : User) : User :=
  { old with
    firstName := new.firstName, lastName := new.lastName, email := new.email,
    updateTime := new.updateTime }

/-- Sets the profile of a user that is known. -/
def updateProfile (s : Memory) (u : User) : Memory :=
  match s.users.get? u.id with
  | some old => { s with users := s.users.insert u.id (withProfileOf old u) }
  | none => s

/-! ## Calls -/

/-- The outcome of a write: the new state, or a failure that leaves the state alone. -/
def written (s : Memory) : Except Fault Memory → Except Fault Unit × Memory
  | .ok s' => (.ok (), s')
  | .error f => (.error f, s)

/-- Answers a call. -/
def answer : (c : Call) → Memory → Except Fault c.Answer × Memory
  | .countGroups, s => (.ok s.countGroups, s)
  | .pageGroups skip limit, s => (.ok (s.pageGroups skip limit), s)
  | .findGroup slug, s => (.ok (s.findGroup slug), s)
  | .insertGroup g owner, s => s.written (s.insertGroup g owner)
  | .updateGroup g, s => s.written (s.updateGroup g)
  | .deleteGroup id, s => let (found, s') := s.deleteGroup id; (.ok found, s')
  | .listMembers groupId, s => (.ok (s.listMembers groupId), s)
  | .findMember groupId userId, s => (.ok (s.findMember groupId userId), s)
  | .upsertMembers groupId members, s => s.written (s.upsertMembers groupId members)
  | .deleteMember groupId userId, s =>
      let (found, s') := s.deleteMember groupId userId; (.ok found, s')
  | .countMemberGroups userId roles, s => (.ok (s.countMemberGroups userId roles), s)
  | .pageMemberGroups userId roles skip limit, s =>
      (.ok (s.pageMemberGroups userId roles skip limit), s)
  | .findUser id, s => (.ok (s.users.get? id), s)
  | .findUsers ids, s => (.ok (s.findUsers ids), s)
  | .listUsers email, s => (.ok (s.listUsers email), s)
  | .insertUser u, s => s.written (s.insertUser u)
  | .updateProfile u, s => (.ok (), s.updateProfile u)
  | .findNamespace slug, s => (.ok (s.namespaces.get? slug), s)

end Memory

end Roster.Store
