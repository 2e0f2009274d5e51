/-
The store on a document server.

Each call as a plan of requests.  Writes that concern several documents are made
in a transaction: after a failure it is aborted and the failure is the outcome,
whatever becomes of the abort; else it is committed, and only then has the call
succeeded.
-/
import Roster.Document.Command
import Roster.Record.Stored
import Roster.Store.Call

namespace Roster.Store.Documents

open Document (Collection Command Filter Refusal Request)

/-- A computation that sends requests to a document server. -/
abbrev Exchange := Plan Request Request.Answer

/-- A refusal for which the store has no explanation. -/
def refused (r : Refusal) : Fault := .commandRefused r.code

/-- A refusal because of values that are there already has an explanation. -/
def duplicate (f : Fault) (r : Refusal) : Fault := if r.isDuplicateKey then f else refused r

/-- Sends a request; the outcome is the reply, or the failure made of the refusal. -/
def send (q : Request) (explain : Refusal → Fault := refused) : Exchange q.Reply :=
  .ask q fun
    | .ok reply => .done reply
    | .error r => .fail (explain r)

/-- Sends a command by itself. -/
def single (c : Command) : Exchange c.Reply := send (.single c)

/-- Sends a command of a transaction. -/
def within (c : Command) (explain : Refusal → Fault := refused) : Exchange c.Reply :=
  send (.within c) explain

/-- Carries out a plan as a transaction. -/
def transaction (body : Exchange α) : Exchange α := do
  match ← body.attempt with
  | .ok a => do
      send .commit
      return a
  | .error f => .ask .abort fun _ => .fail f

/-! ## Reading -/

/-- Documents as records. -/
def decode (ofDocument? : Document → Option α) (ds : List Document) : Exchange (List α) :=
  match ds.mapM ofDocument? with
  | some records => .done records
  | none => .fail .documentUnreadable

/-- A value is the given text. -/
def is (name value : String) : Filter := [(name, .equals (.text value))]

/-- A value is one of the given texts. -/
def isOneOf (name : String) (values : List String) : Filter :=
  [(name, .oneOf (values.map .text))]

/-- The fields by which lists are sorted. -/
def byCreation : List String := ["create_time", "_id"]

/-- The first document that meets a filter. -/
def findOne (c : Collection) (filter : Filter) : Command := .find c filter none none (some 1)

/-- The first record that meets a filter. -/
def one (ofDocument? : Document → Option α) (c : Collection) (filter : Filter) :
    Exchange (Option α) := do
  let ds ← single (findOne c filter)
  return (← decode ofDocument? ds).head?

/-- All records that meet a filter. -/
def all (ofDocument? : Document → Option α) (c : Collection) (filter : Filter)
    (sort : List String) : Exchange (List α) := do
  let ds ← single (.find c filter (some sort) none none)
  decode ofDocument? ds

/-- Numbers from here on do not fit into a signed word. -/
def signedLimit : UInt64 := 9223372036854775808

/-- The limit that arrives when a limit is sent as a signed word, of which the absolute
value counts. -/
def sentLimit (limit : UInt64) : UInt64 := if limit < signedLimit then limit else 0 - limit

/-- A part of the list of groups that meet a filter. -/
def groupPage (filter : Filter) (skip limit : UInt64) : Exchange (List Group) :=
  if limit = 0 then .done []
  else if signedLimit ≤ skip then .fail (.skipTooLarge skip)
  else do
    let ds ← single (.find .groups filter (some byCreation) (some skip) (some (sentLimit limit)))
    decode Group.ofDocument? ds

/-- The ids of the groups in which a user has one of the roles. -/
def memberGroupIds (userId : String) (roles : List Role) : Exchange (List String) := do
  let members ← all Member.ofDocument? .members
    (is "user_id" userId ++ isOneOf "role" (roles.map Role.name)) ["_id"]
  return members.map (·.groupId)

/-- The number of groups in which a user has one of the roles. -/
def countMemberGroups (userId : String) (roles : List Role) : Exchange UInt64 := do
  let ids ← memberGroupIds userId roles
  if ids.isEmpty then return 0
  else
    let n ← single (.count .groups (isOneOf "_id" ids))
    return n.toUInt64

/-- A part of the list of groups in which a user has one of the roles. -/
def pageMemberGroups (userId : String) (roles : List Role) (skip limit : UInt64) :
    Exchange (List Group) := do
  let ids ← memberGroupIds userId roles
  if ids.isEmpty then return [] else groupPage (isOneOf "_id" ids) skip limit

/-- The users with the given ids, in the order of lists. -/
def findUsers (ids : List String) : Exchange (List User) :=
  if ids.isEmpty then .done [] else all User.ofDocument? .users (isOneOf "_id" ids) byCreation

/-! ## Writing -/

/-- Adds a group with its namespace and its first member. -/
def insertGroup (g : Group) (owner : Member) : Exchange Unit :=
  transaction do
    within (.insert .namespaces g.namespace.toDocument) (duplicate (.slugTaken g.slug))
    within (.insert .groups g.toDocument) (duplicate (.slugTaken g.slug))
    within (.insert .members owner.toDocument)

/-- The values of a group that may change. -/
def groupChanges (g : Group) : Document :=
  [("name", .text g.name), ("slug", .text g.slug), ("description", .ofOption g.description),
   ("update_time", .int g.updateTime)]

/-- Sets what may change in a group. -/
def updateGroup (g : Group) : Exchange Unit :=
  transaction do
    let _ ← within (.update .namespaces (is "_id" g.id) [("slug", .text g.slug)] none)
      (duplicate (.slugTaken g.slug))
    let met ← within (.update .groups (is "_id" g.id) (groupChanges g) none)
      (duplicate (.slugTaken g.slug))
    if met = 0 then .fail (.groupIdUnknown g.id) else return ()

/-- Takes away a group with its namespace and its members. -/
def deleteGroup (id : String) : Exchange Bool :=
  transaction do
    let deleted ← within (.delete .groups (is "_id" id))
    let _ ← within (.delete .namespaces (is "_id" id))
    let _ ← within (.delete .members (is "group_id" id))
    return 0 < deleted

/-- Sets role and update time of a membership that is known, and adds one that is not. -/
def upsertMember (m : Member) : Exchange Unit := do
  let _ ← within (.update .members (is "_id" m.id)
    [("role", .text m.role.name), ("update_time", .int m.updateTime)]
    (some [("group_id", .text m.groupId), ("user_id", .text m.userId),
           ("create_time", .int m.createTime)]))
  return ()

/-- Sets or adds memberships one after the other. -/
def upsertEach : List Member → Exchange Unit
  | [] => .done ()
  | m :: rest => do
      upsertMember m
      upsertEach rest

/-- Sets or adds memberships, provided that the group is still there. -/
def upsertMembers (groupId : String) (members : List Member) : Exchange Unit :=
  transaction do
    let ds ← within (findOne .groups (is "_id" groupId))
    let groups ← decode Group.ofDocument? ds
    if groups.isEmpty then .fail (.groupIdUnknown groupId) else upsertEach members

/-- Takes away the membership of a user in a group. -/
def deleteMember (groupId userId : String) : Exchange Bool := do
  let deleted ← single (.delete .members (is "_id" (Member.idOf groupId userId)))
  return 0 < deleted

/-- Adds a user with its namespace. -/
def insertUser (u : User) : Exchange Unit :=
  transaction do
    within (.insert .namespaces u.namespace.toDocument) (duplicate (.slugTaken u.slug))
    within (.insert .users u.toDocument) (duplicate (.userIdTaken u.id))

/-- Sets the profile of a user. -/
def updateProfile (u : User) : Exchange Unit := do
  let _ ← single (.update .users (is "_id" u.id)
    [("first_name", .ofOption u.firstName), ("last_name", .ofOption u.lastName),
     ("email", .ofOption u.email), ("update_time", .int u.updateTime)] none)
  return ()

/-! ## Calls -/

/-- The plan of a call. -/
def plan : (c : Call) → Exchange c.Answer
  | .countGroups => return (← single (.count .groups [])).toUInt64
  | .pageGroups skip limit => groupPage [] skip limit
  | .findGroup slug => one Group.ofDocument? .groups (is "slug" slug)
  | .insertGroup g owner => insertGroup g owner
  | .updateGroup g => updateGroup g
  | .deleteGroup id => deleteGroup id
  | .listMembers groupId =>
      all Member.ofDocument? .members (is "group_id" groupId) ["create_time", "user_id"]
  | .findMember groupId userId =>
      one Member.ofDocument? .members (is "_id" (Member.idOf groupId userId))
  | .upsertMembers groupId members => upsertMembers groupId members
  | .deleteMember groupId userId => deleteMember groupId userId
  | .countMemberGroups userId roles => countMemberGroups userId roles
  | .pageMemberGroups userId roles skip limit => pageMemberGroups userId roles skip limit
  | .findUser id => one User.ofDocument? .users (is "_id" id)
  | .findUsers ids => findUsers ids
  | .listUsers none => all User.ofDocument? .users [] byCreation
  | .listUsers (some email) => all User.ofDocument? .users (is "email" email) byCreation
  | .insertUser u => insertUser u
  | .updateProfile u => updateProfile u
  | .findNamespace slug => one Namespace.ofDocument? .namespaces (is "slug" slug)

/-- Sets up the indexes of all collections. -/
def setUp : Exchange Unit :=
  Collection.all.forM fun c => single (.createIndexes c c.indexes)

end Roster.Store.Documents
