/-
Addresses of document servers.

An address names a scheme and one or more hosts.  A user may stand before the
hosts; behind a slash stand a database and, after a question mark, options.
-/
import Roster.Document.Address.Host
import Roster.Document.Address.Options

namespace Roster.Document

/-- An address. -/
structure Address where
  hosts : List Address.Host
  /-- An at sign asks to log in, even if no user is named. -/
  asksLogin : Bool := false
  user : Option String := none
  password : Option String := none
  database : Option String := none
  options : Address.Options := {}
deriving DecidableEq, Repr

namespace Address

/-- What follows the scheme of addresses. -/
def afterScheme? (cs : List Char) : Option (List Char) :=
  let scheme := "mongodb://".toList
  if scheme.isPrefixOf cs then some (cs.drop scheme.length) else none

/-! ## Users -/

/-- The characters that stand only escaped in the name and the password of a user. -/
def isReserved (c : Char) : Bool := ":/?#[]@".toList.contains c

/-- Each percent sign begins an escape. -/
def hasWholeEscapes : List Char → Bool
  | [] => true
  | ['%'] | ['%', _] => false
  | '%' :: a :: b :: r =>
      (Text.hexNatural? [a, b]).isSome && hasWholeEscapes (b :: r)
  | _ :: r => hasWholeEscapes r

/-- The name or the password of a user. -/
def userPart? (cs : List Char) : Option String :=
  if cs.any isReserved || !hasWholeEscapes cs then none
  else Text.percentText? (String.ofList cs)

/-- The name of a user and the password behind a colon; either may be missing. -/
def user? (cs : List Char) : Option (Option String × Option String) := do
  let name := cs.takeWhile (· ≠ ':')
  if name.isEmpty then return (none, none)
  else
    let user ← userPart? name
    match cs.drop name.length with
    | [] => return (some user, none)
    | _ :: r => return (some user, some (← userPart? r))

/-! ## Databases -/

/-- The characters that no name of a database holds. -/
def isIllegal (c : Char) : Bool := ['/', '\\', ' ', '"', '$'].contains c

/-- The name of a database, if there is one. -/
def database? (cs : List Char) : Option (Option String) :=
  if cs.isEmpty then some none
  else (Text.percentText? (String.ofList cs)).bind fun name =>
    if name.toList.any isIllegal then none else some (some name)

/-! ## Addresses -/

/-- What is given of a user goes with the way to log in. -/
def canLogIn (a : Address) : Bool :=
  match a.options.get? "authmechanism" with
  | none => a.user.isSome || !a.asksLogin
  | some "MONGODB-X509" => a.password.isNone
  | some "PLAIN" => a.user.any (· ≠ "") && a.password.any (· ≠ "")
  | some "MONGODB-OIDC" => a.password.isNone
  | some _ => a.user.isSome

/-- The hosts, and the user before the last at sign. -/
def ofHosts? (cs : List Char) : Option Address := do
  let last := (cs.reverse.takeWhile (· ≠ '@')).reverse
  let before := cs.take (cs.length - last.length)
  let (user, password) ← user? before.dropLast
  let hosts ← (Text.pieces ',' last).mapM Host.ofChars?
  return { hosts, asksLogin := !before.isEmpty, user, password }

/-- The address that a text spells. -/
def ofText? (text : String) : Option Address := do
  let cs ← afterScheme? text.toList
  let hosts := cs.takeWhile (· ≠ '/')
  let rest := (cs.drop hosts.length).drop 1
  let name := rest.takeWhile (· ≠ '?')
  let a ← ofHosts? hosts
  let database ← database? name
  let options ← match (rest.drop name.length).drop 1 with
    | [] => some {}
    | cs => options? cs
  let a := { a with database, options }
  if hosts.length = cs.length && cs.contains '?' then none
  else if a.canLogIn && options.agree a.hosts.length then return a
  else none

/-- The text is the address of one or more servers. -/
def isValid (text : String) : Bool := (ofText? text).isSome

end Address

end Roster.Document
