/-
# How endpoints turn to their services

Whatever an endpoint reads of the request, it reads before it asks anything.  Then either
it has ended, or it does what its service does for one request, and responds
(`Handles`).  Which requests these can be is `Endpoint.TurnsTo`: they are made for the
caller, and their texts have been judged (`Request.Accepted`).

So what holds of the services holds of the endpoints: what all plans of accepted requests
abide by, the plans of HTTP requests abide by as well (`abides_serve_of`).
-/
import Roster.Api.Serve
import Roster.Proofs.Service.Texts

namespace Roster.Api

open Http (Request Response)
open Service (Abides Inquiry Supply alone)
open Store (Memory)

/-- The plan of a request that arrives.  It comes with what libraries add to its handling, which
need not be the same for another request. -/
abbrev serveArrived (scheme : Identity.Scheme) (arrived : Libraries × Request) : Service Response :=
  serve arrived.1 scheme arrived.2

/-- The desk of the application, for callers identified in some way. -/
abbrev desk (scheme : Identity.Scheme) : Service.Desk :=
  ⟨Libraries × Request, fun _ => Response, serveArrived scheme⟩

/-- The status is one of those that tell of a success. -/
def Succeeds (r : Response) : Prop := 200 ≤ r.status ∧ r.status < 300

theorem succeeds_json {status : Nat} (h : 200 ≤ status ∧ status < 300) (body : Json)
    (headers : List Http.Header) : Succeeds (.json status body headers) := h

/-- The status of a run says what the status of its response is. -/
theorem status_of_map {o : Except Fault Response} {response : Response} {status : Nat}
    (h : o.map (·.status) = .ok status) (ho : o = .ok response) : response.status = status := by
  rw [ho] at h
  exact Except.ok.inj h

/-- Libraries that keep the order of defects, find fault with every packed body and write an
empty description. -/
def Libraries.plain : Libraries where
  order defects := defects
  order_perm _ := .refl _
  json := ⟨fun _ => "", fun _ _ => ⟨0, 0⟩⟩
  unpack _ _ := { pieces := [], problem := some "" }
  description := .ok (.object [])

/-- What an endpoint can ask its service for on behalf of a caller. -/
inductive Endpoint.TurnsTo (c : Caller) : Endpoint → Service.Request → Prop where
  | listGroups (page : Page.Request) : TurnsTo c .listGroups (.listGroups page)
  | createGroup {draft : Group.Draft} (h : draft.defects = []) :
      TurnsTo c .createGroup (.createGroup c draft)
  | getGroup (slug : String) : TurnsTo c (.getGroup slug) (.getGroup slug)
  | patchGroup (slug : String) {patch : Group.Patch} (h : patch.defects = []) :
      TurnsTo c (.patchGroup slug) (.updateGroup c slug patch)
  | deleteGroup (slug : String) : TurnsTo c (.deleteGroup slug) (.deleteGroup c slug)
  | listMembers (slug : String) : TurnsTo c (.listMembers slug) (.listMembers slug)
  | patchMembers (slug : String) (changes : List Member.Change) :
      TurnsTo c (.patchMembers slug) (.updateMembers c slug changes)
  | removeMember (slug userId : String) :
      TurnsTo c (.removeMember slug userId) (.removeMember c slug userId)
  | listNamespaces (page : Page.Request) (minimum : Option Role) :
      TurnsTo c .listNamespaces (.listNamespaces c page minimum)
  | getNamespace (slug : String) : TurnsTo c (.getNamespace slug) (.getNamespace slug)
  | ownUser : TurnsTo c .ownUser (.ensureUser c)
  | listUsers (email : Option String) : TurnsTo c .listUsers (.listUsers email)
  | getUser (id : String) : TurnsTo c (.getUser id) (.getUser id)

/-- Only requests with valid texts are turned to the services. -/
theorem Endpoint.TurnsTo.accepted {c : Caller} {e : Endpoint} {q : Service.Request}
    (h : e.TurnsTo c q) : q.Accepted := by
  cases h with
  | createGroup h => exact h
  | patchGroup slug h => exact h
  | _ => trivial

/-- The plan ends at once, or it does what the service does for one of the requests, and then
responds with a success. -/
inductive Handles (P : Service.Request → Prop) : Service Response → Prop where
  | done {response : Response} (h : Succeeds response) : Handles P (.done response)
  | fail (f : Fault) : Handles P (.fail f)
  | service (q : Service.Request) {respond : q.Result → Response} (hq : P q)
      (h : ∀ a, Succeeds (respond a)) : Handles P (q.plan >>= fun a => .done (respond a))

section Reading

variable {α ε : Type} {P : Service.Request → Prop} {lib : Libraries}

theorem handles_required {refusal : ε → Refusal} {e : Except ε α} {k : α → Service Response}
    (hk : ∀ a, Handles P (k a)) : Handles P (required lib refusal e >>= k) := by
  cases e with
  | ok a => exact hk a
  | error r => exact .fail _

/-- Past the judgement of the texts, they have no defects. -/
theorem handles_accepted {defects : List Field.Defect} {k : Unit → Service Response}
    (hk : defects = [] → Handles P (k ())) : Handles P (accepted lib defects >>= k) := by
  unfold accepted
  split
  · next hnone => exact hk (List.isEmpty_iff.mp hnone)
  · exact .fail _

theorem handles_requireLogin {c : Caller} {k : String → Service Response}
    (hk : ∀ id, Handles P (k id)) : Handles P (Service.requireLogin c >>= k) := by
  unfold Service.requireLogin
  split
  · exact hk _
  · exact .fail _

end Reading

/-- An endpoint turns to its service at most once, and for its caller. -/
theorem handles_handle (lib : Libraries) (c : Caller) (r : Request) (e : Endpoint) :
    Handles (e.TurnsTo c) (e.handle lib c r) := by
  have h200 : ∀ {body : Json} {headers : List Http.Header},
      Succeeds (.json 200 body headers) := fun {body headers} =>
    succeeds_json (by decide) body headers
  cases e with
  | description =>
      simp only [Endpoint.handle]
      split
      · exact .done h200
      · exact .fail _
  | version => exact .done h200
  | listGroups =>
      refine handles_required fun asked => handles_required fun page => ?_
      exact .service (.listGroups page) (.listGroups page) fun _ => h200
  | createGroup =>
      refine handles_required fun draft => handles_accepted fun hnone => ?_
      exact .service (.createGroup c draft) (.createGroup hnone) fun _ =>
        succeeds_json (by decide) _ _
  | getGroup slug => exact .service (.getGroup slug) (.getGroup slug) fun _ => h200
  | patchGroup slug =>
      refine handles_required fun patch => handles_accepted fun hnone => ?_
      exact .service (.updateGroup c slug patch) (.patchGroup slug hnone) fun _ => h200
  | deleteGroup slug =>
      exact .service (.deleteGroup c slug) (.deleteGroup slug) fun _ => ⟨by decide, by decide⟩
  | listMembers slug => exact .service (.listMembers slug) (.listMembers slug) fun _ => h200
  | patchMembers slug =>
      refine handles_required fun changes => ?_
      split
      · exact .fail _
      · exact .service (.updateMembers c slug changes) (.patchMembers slug changes) fun _ => h200
  | removeMember slug userId =>
      exact .service (.removeMember c slug userId) (.removeMember slug userId) fun _ =>
        ⟨by decide, by decide⟩
  | listNamespaces =>
      refine handles_required fun asked => handles_required fun minimum =>
        handles_required fun page => ?_
      exact .service (.listNamespaces c page minimum) (.listNamespaces page minimum) fun _ => h200
  | getNamespace slug => exact .service (.getNamespace slug) (.getNamespace slug) fun _ => h200
  | ownUser => exact .service (.ensureUser c) .ownUser fun _ => h200
  | listUsers =>
      refine handles_required fun email => handles_requireLogin fun u => ?_
      exact .service (.listUsers email) (.listUsers email) fun _ => h200
  | getUser id =>
      refine handles_requireLogin fun u => ?_
      exact .service (.getUser id) (.getUser id) fun _ => h200

/-! ## What is read of a request -/

section Reading

variable {r r' : Request} {lib : Libraries}

/-- The fields of the header that say something of the body. -/
def bodyFields : List String := ["content-type", "content-length", "content-encoding"]

/-- Of a body count its bytes, and what three header fields say of it. -/
theorem body_congr
    (hfields : ∀ name ∈ bodyFields,
      Http.Header.first? r'.headers name = Http.Header.first? r.headers name)
    (hbytes : r'.body = r.body) {α : Type} (decode : List UInt8 → Json.Decoded α) :
    body lib decode r' = body lib decode r := by
  have htype := hfields "content-type" (by simp [bodyFields])
  have hlength : r'.announced? = r.announced? := by
    rw [Request.announced?, hfields "content-length" (by simp [bodyFields]), Request.announced?]
  have hcoding : Http.Coding.ofRequest? r' = Http.Coding.ofRequest? r :=
    congrArg (·.bind Http.Coding.ofValue?) (hfields "content-encoding" (by simp [bodyFields]))
  simp only [body, readBody, content, unpacked, htype, hlength, hcoding, hbytes]

/-- Of a request count for an endpoint the query and the body. -/
theorem handle_congr (hquery : r'.query = r.query)
    (hbody : ∀ {α : Type} (decode : List UInt8 → Json.Decoded α),
      body lib decode r' = body lib decode r)
    (c : Caller) (e : Endpoint) : e.handle lib c r' = e.handle lib c r := by
  cases e with
  | listGroups | listNamespaces | listUsers => simp only [Endpoint.handle, query, hquery]
  | createGroup | patchGroup | patchMembers => simp only [Endpoint.handle, hbody]
  | _ => rfl

end Reading

/-! ## From services to HTTP requests -/

/-- The caller of the request is identified, and the request leads to the endpoint. -/
def Reaches (scheme : Identity.Scheme) (r : Request) (c : Caller) (e : Endpoint) : Prop :=
  ∃ rest, Endpoint.insideBase? r.path = some rest ∧ scheme.identify r.headers = .ok c ∧
    Endpoint.of? r.method rest = some e

section Alone

variable {lib : Libraries} {scheme : Identity.Scheme} {r : Request} {c : Caller} {e : Endpoint}

/-- The response to a request is what its endpoint ends with. -/
theorem alone_route {rest : List Char} (h : Endpoint.of? r.method rest = some e) (s : Memory)
    (σ : Supply) :
    alone (route lib c r rest) s σ =
      (.ok (settled (alone (e.handle lib c r) s σ).1), (alone (e.handle lib c r) s σ).2) := by
  unfold alone route
  rw [h]
  dsimp only
  rw [Plan.run_bind, Plan.run_attempt]
  rfl

theorem alone_serve (h : Reaches scheme r c e) (s : Memory) (σ : Supply) :
    alone (serve lib scheme r) s σ =
      (.ok (settled (alone (e.handle lib c r) s σ).1), (alone (e.handle lib c r) s σ).2) := by
  obtain ⟨rest, hbase, hcaller, hendpoint⟩ := h
  rw [← alone_route hendpoint, serve, hbase, hcaller]

end Alone

section Serving

variable {I : Memory → Prop} {asks : List Inquiry → Ask → Prop}
  {ends : List Inquiry → Except Fault Response → Prop} {past : List Inquiry}
  {P : Service.Request → Prop}

/-- What is shown of all ways to end at once, and of the services that can be asked, is shown of
the endpoint. -/
theorem Handles.abides {p : Service Response} (hp : Handles P p)
    (hdone : ∀ response, Succeeds response → ends past (.ok response))
    (hfail : ∀ f, ends past (.error f))
    (hservice : ∀ q : Service.Request, P q → Abides I asks (fun past o => match o with
      | .ok _ => ∀ response, Succeeds response → ends past (.ok response)
      | .error f => ends past (.error f)) q.plan past) : Abides I asks ends p past := by
  cases hp with
  | done h => exact hdone _ h
  | fail f => exact hfail f
  | service q hq h =>
      refine Service.abides_bind.mpr ((hservice q hq).imp fun past o hends => ?_)
      cases o with
      | ok a => exact hends _ (h a)
      | error f => exact hends

/-- An endpoint asks what the services ask to which it can turn. -/
theorem Handles.abides_asks {p : Service Response} (hp : Handles P p)
    (hplan : ∀ q : Service.Request, P q → Abides I asks (fun _ _ => True) q.plan past) :
    Abides I asks (fun _ _ => True) p past := by
  refine hp.abides (fun _ _ => trivial) (fun _ => trivial) fun q hq => (hplan q hq).imp ?_
  intro past o _
  cases o with
  | ok a => exact fun _ _ => trivial
  | error f => trivial

/-- A request that reaches no endpoint is answered at once; for the others there is the word of
all endpoints. -/
theorem abides_serve (hnone : ∀ response, ends [] (.ok response)) (lib : Libraries)
    (scheme : Identity.Scheme) (r : Request)
    (hhandle : ∀ (c : Caller) (e : Endpoint), Reaches scheme r c e →
      Abides I asks (fun past o => ends past (.ok (settled o))) (e.handle lib c r) []) :
    Abides I asks ends (serve lib scheme r) [] := by
  unfold serve
  split
  · exact hnone _
  · next rest hbase =>
      split
      · exact hnone _
      · next c hcaller =>
          unfold route
          split
          · exact hnone _
          · next e hendpoint =>
              have hhandled := hhandle c e ⟨rest, hbase, hcaller, hendpoint⟩
              exact Service.abides_bind.mpr (Service.abides_attempt.mpr hhandled)

/-- **What accepted requests abide by, HTTP requests abide by**, however callers are identified
and whatever libraries add. -/
theorem abides_serve_of
    (hplan : ∀ q : Service.Request, q.Accepted → Abides I asks (fun _ _ => True) q.plan [])
    (lib : Libraries) (scheme : Identity.Scheme) (r : Request) :
    Abides I asks (fun _ _ => True) (serve lib scheme r) [] :=
  abides_serve (fun _ => trivial) lib scheme r fun c e _ =>
    (handles_handle lib c r e).abides_asks fun q hq => hplan q hq.accepted

end Serving

end Roster.Api
