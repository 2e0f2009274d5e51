/-
What a store can be asked.

The calls that the service makes on its store, each with the type of its answer,
and services as plans over these calls, the clock and the source of fresh ids.
Lists are answered in ascending order of creation time and id.
-/
import Roster.Plan
import Roster.Record

namespace Roster

namespace Store

/-- The operations of a store. -/
inductive Operation where
  | countGroups
  | pageGroups
  | findGroup
  | insertGroup
  | updateGroup
  | deleteGroup
  | listMembers
  | findMember
  | upsertMembers
  | deleteMember
  | countMemberGroups
  | pageMemberGroups
  | findUser
  | findUsers
  | listUsers
  | insertUser
  | updateProfile
  | findNamespace
deriving DecidableEq, Repr

/-- A call on a store: an operation with its arguments. -/
inductive Call where
  | countGroups
  /-- The groups after the first `skip`, at most `limit` of them. -/
  | pageGroups (skip limit : UInt64)
  /-- The group with a slug. -/
  | findGroup (slug : String)
  /-- Adds a group, its namespace and its first member. -/
  | insertGroup (group : Group) (owner : Member)
  /-- Sets name, slug, description and update time of the group with this id. -/
  | updateGroup (group : Group)
  /-- Takes away a group, its namespace and its members; answers whether there was one. -/
  | deleteGroup (id : String)
  | listMembers (groupId : String)
  | findMember (groupId userId : String)
  /-- Sets role and update time of members that are known, and adds the others. -/
  | upsertMembers (groupId : String) (members : List Member)
  /-- Takes away a membership; answers whether there was one. -/
  | deleteMember (groupId userId : String)
  /-- The number of groups in which a user has one of the roles. -/
  | countMemberGroups (userId : String) (roles : List Role)
  /-- The groups in which a user has one of the roles, cut as in `pageGroups`. -/
  | pageMemberGroups (userId : String) (roles : List Role) (skip limit : UInt64)
  | findUser (id : String)
  | findUsers (ids : List String)
  /-- All users, or those with an email address. -/
  | listUsers (email : Option String)
  /-- Adds a user and its namespace. -/
  | insertUser (user : User)
  /-- Sets names, email address and update time of the user with this id. -/
  | updateProfile (user : User)
  /-- The entry that a slug points to. -/
  | findNamespace (slug : String)
deriving DecidableEq, Repr

/-- The answer to a call that succeeds. -/
abbrev Call.Answer : Call → Type
  | .countGroups => UInt64
  | .pageGroups .. => List Group
  | .findGroup _ => Option Group
  | .insertGroup .. => Unit
  | .updateGroup _ => Unit
  | .deleteGroup _ => Bool
  | .listMembers _ => List Member
  | .findMember .. => Option Member
  | .upsertMembers .. => Unit
  | .deleteMember .. => Bool
  | .countMemberGroups .. => UInt64
  | .pageMemberGroups .. => List Group
  | .findUser _ => Option User
  | .findUsers _ => List User
  | .listUsers _ => List User
  | .insertUser _ => Unit
  | .updateProfile _ => Unit
  | .findNamespace _ => Option Namespace

/-- The operation of a call. -/
def Call.operation : Call → Operation
  | .countGroups => .countGroups
  | .pageGroups .. => .pageGroups
  | .findGroup _ => .findGroup
  | .insertGroup .. => .insertGroup
  | .updateGroup _ => .updateGroup
  | .deleteGroup _ => .deleteGroup
  | .listMembers _ => .listMembers
  | .findMember .. => .findMember
  | .upsertMembers .. => .upsertMembers
  | .deleteMember .. => .deleteMember
  | .countMemberGroups .. => .countMemberGroups
  | .pageMemberGroups .. => .pageMemberGroups
  | .findUser _ => .findUser
  | .findUsers _ => .findUsers
  | .listUsers _ => .listUsers
  | .insertUser _ => .insertUser
  | .updateProfile _ => .updateProfile
  | .findNamespace _ => .findNamespace

end Store

/-- What a service asks of its surroundings. -/
inductive Ask where
  | store (call : Store.Call)
  /-- The current time in seconds. -/
  | clock
  /-- An id that was never given out before. -/
  | freshId
deriving DecidableEq, Repr

/-- The answer to a question of a service; a store may fail. -/
abbrev Ask.Answer : Ask → Type
  | .store call => Except Fault call.Answer
  | .clock => Int
  | .freshId => String

/-- A computation of the service. -/
abbrev Service := Plan Ask Ask.Answer

namespace Service

/-- Makes a call; if the store fails, so does the service. -/
def call (c : Store.Call) : Service c.Answer := .ask (.store c) Plan.ofExcept

/-- Makes a call and goes on from its outcome, failure or not. -/
def tryCall (c : Store.Call) : Service (Except Fault c.Answer) := Plan.query (Ask.store c)

/-- The current time in seconds. -/
def now : Service Int := Plan.query Ask.clock

/-- A fresh id. -/
def freshId : Service String := Plan.query Ask.freshId

end Service

end Roster
