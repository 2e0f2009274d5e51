/-
Users: registering a caller at first sight, and looking users up.

A new user gets a slug made of the identity.  If it is taken, numbered slugs are
tried in turn, and since others may register at the same time, a slug found free
may still be refused by the store.
-/
import Roster.Service.Access
import Roster.Slug

namespace Roster.Service.Users

/-- How many slugs are tried for a new user. -/
def maxAttempts : Nat := 20

/-- The part of an email address before the first `@`. -/
def localPart (email : String) : String :=
  String.ofList (email.toList.takeWhile (· ≠ '@'))

/-- The texts that a slug may be made of, in order: local part, full name, id. -/
def slugSources (c : Caller) (id : String) : List String :=
  [c.email.map localPart, c.fullName, some id].filterMap fun t => t

/-- The slug made of the first text that gives one, else `user`. -/
def slugBase (c : Caller) (id : String) : String :=
  ((slugSources c id).findSome? Slug.ofText?).getD "user"

/-- The slug of an attempt, counted from one. -/
def candidate (base : String) (attempt : Nat) : String :=
  if attempt = 1 then base else Slug.numbered base attempt

/-- The record of a new user. -/
def newUser (c : Caller) (id slug namespaceId : String) (now : Int) : User :=
  { id, firstName := c.firstName, lastName := c.lastName, email := c.email,
    namespaceId, slug, createTime := now, updateTime := now }

/-- Registers the caller under the first free slug of the attempts left.  If the store
reports a conflict, another request may have registered the same user. -/
def register (c : Caller) (id base : String) : List Nat → Service User
  | [] => .fail (.noSlugLeft id)
  | attempt :: rest => do
      let slug := candidate base attempt
      match ← call (.findNamespace slug) with
      | some _ => register c id base rest
      | none =>
          let time ← now
          let namespaceId ← freshId
          let user := newUser c id slug namespaceId time
          match ← tryCall (.insertUser user) with
          | .ok () => return user
          | .error f =>
              if f.kind = .conflict then
                match ← call (.findUser id) with
                | some existing => return existing
                | none => register c id base rest
              else .fail f

/-- The profile of the record is that of the identity. -/
def sameProfile (u : User) (c : Caller) : Bool :=
  u.firstName == c.firstName && u.lastName == c.lastName && u.email == c.email

/-- Brings the profile of a known user up to date. -/
def refresh (u : User) (c : Caller) : Service User := do
  if sameProfile u c then return u
  else
    let time ← now
    let changed :=
      { u with
        firstName := c.firstName, lastName := c.lastName, email := c.email, updateTime := time }
    call (.updateProfile changed)
    return changed

/-- The record of the caller, made at first sight and kept up to date after that. -/
def ensure (c : Caller) : Service User := do
  let id ← requireLogin c
  match ← call (.findUser id) with
  | some existing => refresh existing c
  | none => register c id (slugBase c id) (List.range' 1 maxAttempts)

/-- The user with an id. -/
def get (id : String) : Service User := do
  match ← call (.findUser id) with
  | some u => return u
  | none => .fail (.userUnknown id)

/-- All users, or those with an email address. -/
def list (email : Option String) : Service (List User) := call (.listUsers email)

end Roster.Service.Users
