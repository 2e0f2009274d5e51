/-
Serving requests.

Below a base path the caller is identified first, then the endpoint is looked up,
then path, query and body are read, then texts are checked, and last the service
is asked.  The first of these that fails decides the response.
-/
import Roster.Api.Endpoint
import Roster.Api.Refusal
import Roster.Api.View
import Roster.Identity

namespace Roster.Api

open Http (Request Response)

/-! ## Responses -/

/-- The response that reports a failure. -/
def failure (r : Report) : Response := .json r.kind.status r.body

/-- The response to a plan that has ended. -/
def settled : Except Fault Response → Response
  | .ok response => response
  | .error f => failure f.report

/-- A list with its totals. -/
def paged (items : List Json) (page : Page.Summary) : Response :=
  .json 200 (.array items) page.headers

/-! ## Reading requests -/

section Reading

variable (lib : Libraries)

/-- A plan that ends at once: with what has been read, or as a refusal. -/
def required (refusal : ε → Refusal) : Except ε α → Service α
  | .ok a => .done a
  | .error e => .fail ((refusal e).fault lib)

/-- Puts together what has been read of a body and the pieces that come after it, as long as
there is not too much of it. -/
def gather (read : List UInt8) : List (List UInt8) → Except Refusal (List UInt8)
  | [] => .ok read
  | piece :: rest =>
      if maxBodyBytes < read.length + piece.length then .error .contentTooLarge
      else gather (read ++ piece) rest

/-- What comes out of the body of a request, which is unpacked if it is packed. -/
def unpacked (r : Request) : Http.Unpacked :=
  match Http.Coding.ofRequest? r with
  | none => { pieces := [r.body] }
  | some coding => lib.unpack coding r.body

/-- The content of a body. -/
def content (r : Request) : Except Refusal (List UInt8) := do
  let text ← gather [] (unpacked lib r).pieces
  match (unpacked lib r).problem with
  | some problem => throw (.packing problem)
  | none => return text

/-- What the body of a request holds. -/
def readBody (decode : List UInt8 → Json.Decoded α) (r : Request) : Except Refusal α := do
  let isJson := (Http.Header.first? r.headers "content-type").any Http.MediaType.isJson
  if !isJson then throw .contentType
  else match r.announced?.filter fun bytes => maxBodyBytes < bytes.toNat with
    | some bytes => throw (.bodyTooLarge bytes)
    | none =>
        let text ← content lib r
        (decode text).mapError (.body text)

/-- The body of a request, or a refusal. -/
def body (decode : List UInt8 → Json.Decoded α) (r : Request) : Service α :=
  required lib (fun refusal => refusal) (readBody lib decode r)

/-- A field of the query of a request, or a refusal. -/
def query (read : String → Except Http.Query.Problem α) (r : Request) : Service α :=
  required lib .query (read r.query)

/-- Goes on if no field has a defect. -/
def accepted (defects : List Field.Defect) : Service Unit :=
  if defects.isEmpty then .done () else .fail ((Refusal.fields defects).fault lib)

/-- Goes on if the numbers make a page. -/
def pageOf (asked : Page.Asked) : Service Page.Request :=
  required lib .page (Page.Request.ofOptional asked.page asked.perPage)

end Reading

/-! ## Endpoints -/

/-- The version of the service. -/
def serviceVersion : String := "0.1.0"

namespace Endpoint

/-- What an endpoint does for a caller. -/
def handle (lib : Libraries) (c : Caller) (r : Request) : Endpoint → Service Response
  | .description => match lib.description with
      | .ok document => return .json 200 document
      | .error message => .fail (.outside ⟨.json, message, none⟩)
  | .version => return .json 200 (.object [("version", .string serviceVersion)])
  | .listGroups => do
      let page ← pageOf lib (← query lib Page.Asked.ofQuery r)
      let (groups, summary) ← Service.Groups.list page
      return paged (groups.map Group.response) summary
  | .createGroup => do
      let draft ← body lib Group.Draft.shape.decodeText r
      accepted lib draft.defects
      let group ← Service.Groups.create c draft
      return .json 201 group.response
  | .getGroup slug => do
      let group ← Service.Groups.get slug
      return .json 200 group.response
  | .patchGroup slug => do
      let patch ← body lib Group.Patch.shape.decodeText r
      accepted lib patch.defects
      let group ← Service.Groups.update c slug patch
      return .json 200 group.response
  | .deleteGroup slug => do
      Service.Groups.delete c slug
      return .empty 204
  | .listMembers slug => do
      let members ← Service.Members.list slug
      return .json 200 (.array (members.map Member.View.response))
  | .patchMembers slug => do
      let changes ← body lib Member.Change.readAll r
      match Member.Change.blankId? changes with
      | some position => .fail ((Refusal.blankId position).fault lib)
      | none =>
          let applied ← Service.Members.update c slug changes
          return .json 200 (.array (applied.map Member.Change.response))
  | .removeMember slug userId => do
      Service.Members.remove c slug userId
      return .empty 204
  | .listNamespaces => do
      let asked ← query lib Page.Asked.ofQuery r
      let minimum ← query lib Role.minimumOfQuery r
      let page ← pageOf lib asked
      let (namespaces, summary) ← Service.Namespaces.list c page minimum
      return paged (namespaces.map Namespace.View.response) summary
  | .getNamespace slug => do
      let found ← Service.Namespaces.get slug
      return .json 200 found.response
  | .ownUser => do
      let user ← Service.Users.ensure c
      return .json 200 (user.response (some c.isAdmin))
  | .listUsers => do
      let email ← query lib User.emailOfQuery r
      let _ ← Service.requireLogin c
      let users ← Service.Users.list email
      return .json 200 (.array (users.map (User.response ·)))
  | .getUser id => do
      let _ ← Service.requireLogin c
      let user ← Service.Users.get id
      return .json 200 user.response

end Endpoint

/-! ## Requests -/

/-- The response to a request of a caller, given what follows the base path. -/
def route (lib : Libraries) (c : Caller) (r : Request) (rest : List Char) : Service Response :=
  match Endpoint.of? r.method rest with
  | none => return .noRoute
  | some e => return settled (← (e.handle lib c r).attempt)

/-- The response to a request; the plan never fails. -/
def serve (lib : Libraries) (scheme : Identity.Scheme) (r : Request) : Service Response :=
  match Endpoint.insideBase? r.path with
  | none => return .noRoute
  | some rest =>
      match scheme.identify r.headers with
      | .error defect => return failure (defect.report lib.json)
      | .ok c => route lib c r rest

end Roster.Api
