/-
Who makes a request.

The identity of a caller is taken from the header fields of the request.  A
gateway in front of the service states it in fields of its own; for trials a
caller may state it alone, as a token that holds the identity as JSON.  Without a
statement the caller is anonymous.
-/
import Roster.Http.Message
import Roster.Record.Shape
import Roster.Report

namespace Roster.Identity

/-- Where identities come from. -/
inductive Kind where
  /-- From the fields that a trusted gateway sets. -/
  | gateway
  /-- From a token that is the identity itself. -/
  | dummy
deriving DecidableEq, Repr, Inhabited

namespace Kind

/-- The sources of identities. -/
def all : List Kind := [.gateway, .dummy]

/-- The word for a source. -/
def name : Kind → String
  | .gateway => "gateway"
  | .dummy => "dummy"

/-- The source that a word stands for. -/
def ofName? (word : String) : Option Kind := all.find? (·.name == word)

end Kind

/-- How callers are identified, and which of them are administrators. -/
structure Scheme where
  kind : Kind := .gateway
  adminIds : List String := []
deriving DecidableEq, Repr, Inhabited

/-- Why no identity can be taken from a request. -/
inductive Defect where
  /-- The value of a field holds other characters than visible ones. -/
  | notText (field : String)
  | bearerExpected
  | malformedToken (token : String) (error : Json.DecodeError)
deriving Repr

namespace Defect

/-- The wording of a defect, given that of errors in JSON texts. -/
def message (w : Json.Wording) : Defect → String
  | .notText field => s!"Invalid {field} header"
  | .bearerExpected => "Expected a Bearer token"
  | .malformedToken token error =>
      "Malformed identity token: " ++ error.message w (Text.bytes token)

/-- What a defect reports. -/
def report (w : Json.Wording) (d : Defect) : Report := ⟨.unauthorized, d.message w, none⟩

end Defect

/-- The value of a field without blank ends; a blank one counts as none. -/
def field? (headers : List Http.Header) (name : String) : Except Defect (Option String) :=
  match Http.Header.first? headers name with
  | none => .ok none
  | some value =>
      if Http.Header.isText value then
        let trimmed := Text.trim value
        .ok (if trimmed = "" then none else some trimmed)
      else .error (.notText name)

/-- The identity that a gateway states.  Without a user there is nothing else to look at. -/
def ofGateway (adminIds : List String) (headers : List Http.Header) : Except Defect Caller := do
  match ← field? headers "X-Forwarded-User" with
  | none => return .anonymous
  | some id =>
      let firstName ← field? headers "X-Forwarded-First-Name"
      let lastName ← field? headers "X-Forwarded-Last-Name"
      let email ← field? headers "X-Forwarded-Email"
      return { id := some id, isAdmin := adminIds.contains id, firstName, lastName, email }

/-- The text after `Bearer `. -/
def token? (value : String) : Option String :=
  let scheme := "Bearer ".toList
  let cs := value.toList
  if scheme.isPrefixOf cs then some (String.ofList (cs.drop scheme.length)) else none

/-- The caller is an administrator also if its id is listed. -/
def withAdmins (adminIds : List String) (c : Caller) : Caller :=
  match c.id with
  | some id => { c with isAdmin := c.isAdmin || adminIds.contains id }
  | none => c

/-- The identity that a token holds. -/
def ofToken (adminIds : List String) (headers : List Http.Header) : Except Defect Caller := do
  match ← field? headers "authorization" with
  | none => return .anonymous
  | some value =>
      match token? value with
      | none => throw .bearerExpected
      | some token =>
          match Caller.shape.decodeText (Text.bytes token) with
          | .ok c => return withAdmins adminIds c
          | .error e => throw (.malformedToken token e)

/-- The caller of a request with these header fields. -/
def Scheme.identify (s : Scheme) (headers : List Http.Header) : Except Defect Caller :=
  match s.kind with
  | .gateway => ofGateway s.adminIds headers
  | .dummy => ofToken s.adminIds headers

end Roster.Identity
