/-
# Callers without an id

An identity may hold anything but an id: that its caller is an administrator, a name, an
address.  None of this counts without an id.  Every service that looks at its caller asks
for the id first (`requireLogin`), so it fails before it could look at the rest, and the
services that ask for no id do not look at the caller at all.

So the plan of an endpoint is the very same for all callers without an id
(`handle_of_unknown`), and nothing that it asks changes the store (`harmless_handle`).
-/
import Roster.Proofs.Api.Handling
import Roster.Proofs.Http.Headers
import Roster.Proofs.Service.Writing

namespace Roster

/-- The question leaves the store as it is. -/
def Ask.Harmless : Ask → Prop
  | .store call => call.Looks
  | _ => True

namespace Service

open Store (Memory)

variable {c : Caller} {q : Request}

theorem requireLogin_of_unknown (h : c.id = none) : requireLogin c = .fail .loginRequired := by
  rw [requireLogin, h]

/-- A request that has a caller fails at once if the caller has no id. -/
theorem Request.plan_of_unknown (hq : q.caller? = some c) (h : c.id = none) :
    ∃ f, q.plan = .fail f := by
  have hlogin := requireLogin_of_unknown h
  cases q with
  | updateGroup d slug patch =>
      cases hq
      simp only [plan, Groups.update, hlogin, Plan.fail_bind]
      split
      · exact ⟨_, rfl⟩
      · exact ⟨_, rfl⟩
  | createGroup | deleteGroup | updateMembers | removeMember | listNamespaces | ensureUser =>
      cases hq
      simp only [plan, Groups.create, Groups.delete, Members.update, Members.remove,
        Namespaces.list, Users.ensure, hlogin, Plan.fail_bind]
      exact ⟨_, rfl⟩
  | _ => cases hq

theorem Inquiry.Possible.after_of_harmless {e : Inquiry} (he : e.Possible)
    (h : e.ask.Harmless) : e.after = e.before := by
  cases he with
  | call call s => exact Store.Call.Looks.same h s
  | clock now s => rfl
  | freshId s _ => rfl

/-- A plan that asks nothing but harmless questions leaves the store as it is. -/
theorem store_of_harmless {α : Type} {p : Service α}
    (hp : Abides (fun _ => True) (fun _ => Ask.Harmless) (fun _ _ => True) p []) (s : Memory)
    {σ : Supply} (hσ : σ.Shaped) : (alone p s σ).2.store = s := by
  obtain ⟨-, hheeded, -⟩ := hp.alone (s := s) (fun _ _ _ _ _ _ => trivial) hσ trivial
  refine ((chained_alone p s σ).before_eq fun e he => ?_).1
  obtain ⟨earlier, -, -, hpossible, hharmless⟩ := hheeded.of_mem he
  exact hpossible.after_of_harmless hharmless

end Service

namespace Api

open Http (Request Response)
open Service (Abides Supply alone)
open Store (Memory)

variable {lib : Libraries} {c : Caller} {e : Endpoint}

/-- An endpoint turns to its service with the caller, or with a request that only looks. -/
theorem Endpoint.TurnsTo.caller {q : Service.Request} (h : e.TurnsTo c q) :
    q.caller? = some c ∨ q.OnlyLooks := by
  cases h with
  | createGroup | patchGroup | deleteGroup | patchMembers | removeMember | listNamespaces
  | ownUser => exact .inl rfl
  | _ => exact .inr trivial

/-- **Without an id the rest of an identity does not count**: the endpoint does the same as for
the identity that says nothing. -/
theorem handle_of_unknown (h : c.id = none) (r : Request) (e : Endpoint) :
    e.handle lib c r = e.handle lib .anonymous r := by
  have hlogin := Service.requireLogin_of_unknown h
  have hanonymous := Service.requireLogin_of_unknown (c := .anonymous) rfl
  cases e with
  | createGroup | patchGroup | deleteGroup | patchMembers | removeMember | listNamespaces | ownUser
  | listUsers | getUser =>
      simp only [Endpoint.handle, Service.Groups.create, Service.Groups.update,
        Service.Groups.delete, Service.Members.update, Service.Members.remove,
        Service.Namespaces.list, Service.Users.ensure, hlogin, hanonymous, Plan.fail_bind]
  | _ => rfl

theorem harmless_handle (h : c.id = none) (r : Request) (e : Endpoint) :
    Abides (fun _ => True) (fun _ => Ask.Harmless) (fun _ _ => True) (e.handle lib c r) [] := by
  refine (handles_handle lib c r e).abides_asks fun q hq => ?_
  rcases hq.caller with hcaller | hlooks
  · obtain ⟨f, hf⟩ := Service.Request.plan_of_unknown hcaller h
    rw [hf]
    trivial
  · exact Service.abides_onlyLooks (fun _ _ hcall => hcall) hlooks

/-- Nor does it count for the plan of a whole request below a base path. -/
theorem route_of_unknown (h : c.id = none) (r : Request) (rest : List Char) :
    route lib c r rest = route lib .anonymous r rest := by
  unfold route
  split
  · rfl
  · next e _ => rw [handle_of_unknown h r e]

/-- A request without an id is answered, and nothing has changed. -/
theorem alone_route_of_unknown (h : c.id = none) (r : Request) (rest : List Char) (s : Memory)
    {σ : Supply} (hσ : σ.Shaped) :
    ∃ response w, alone (route lib c r rest) s σ = (.ok response, w) ∧ w.store = s := by
  cases hendpoint : Endpoint.of? r.method rest with
  | none =>
      refine ⟨.noRoute, ⟨s, σ, []⟩, ?_, rfl⟩
      rw [route, hendpoint]
      rfl
  | some e =>
      exact ⟨_, _, alone_route hendpoint s σ,
        Service.store_of_harmless (harmless_handle h r e) s hσ⟩

/-! ## Requests without the fields of identities -/

/-- The fields from which identities are taken. -/
def identityFields : List String :=
  ["authorization", "X-Forwarded-User", "X-Forwarded-First-Name", "X-Forwarded-Last-Name",
    "X-Forwarded-Email"]

/-- The field is about the identity of the caller. -/
def ofIdentity (field : Http.Header) : Bool :=
  identityFields.any fun name => Http.Header.sameName field.1 name

/-- The request without the fields that are about the identity of the caller. -/
def unsigned (r : Request) : Request :=
  { r with headers := r.headers.filter fun field => !ofIdentity field }

/-- A field of another name is not taken away. -/
theorem first?_unsigned {name : String}
    (h : ∀ field ∈ identityFields, Http.Header.sameName name field = false) (r : Request) :
    Http.Header.first? (unsigned r).headers name = Http.Header.first? r.headers name := by
  -- What is found under the name is of no name of the list, so it is still there.
  have hstays : ∀ field : Http.Header, Http.Header.sameName field.1 name →
      ofIdentity field = false := by
    intro field hname
    refine List.any_eq_false.mpr fun f hf => ?_
    rw [Http.Header.sameName_congr hname, h f hf]
    exact Bool.false_ne_true
  unfold Http.Header.first? unsigned
  rw [List.find?_filter]
  congr 2
  funext field
  by_cases hname : Http.Header.sameName field.1 name
  · simp [hname, hstays field hname]
  · simp [hname]

theorem first?_unsigned_of_mem {name : String} (h : name ∈ identityFields) (r : Request) :
    Http.Header.first? (unsigned r).headers name = none := by
  unfold Http.Header.first? unsigned
  rw [Option.map_eq_none_iff, List.find?_eq_none]
  intro field hfield hname
  have hgone : ofIdentity field := List.any_eq_true.mpr ⟨name, h, hname⟩
  have hleft := (List.mem_filter.mp hfield).2
  simp [hgone] at hleft

/-- Nothing is left that could say who makes the request. -/
theorem identify_unsigned (scheme : Identity.Scheme) (r : Request) :
    scheme.identify (unsigned r).headers = .ok .anonymous := by
  have hnone : ∀ name ∈ identityFields, Identity.field? (unsigned r).headers name = .ok none := by
    intro name hname
    rw [Identity.field?, first?_unsigned_of_mem hname]
  unfold Identity.Scheme.identify
  split
  · rw [Identity.ofGateway, hnone _ (by simp [identityFields])]
    rfl
  · rw [Identity.ofToken, hnone _ (by simp [identityFields])]
    rfl

/-- Endpoints read no field that is about the identity. -/
theorem handle_unsigned (c : Caller) (r : Request) (e : Endpoint) :
    e.handle lib c (unsigned r) = e.handle lib c r := by
  have hother : ∀ name ∈ bodyFields, ∀ field ∈ identityFields,
      Http.Header.sameName name field = false := by decide
  have hquery : (unsigned r).query = r.query := rfl
  have hfields : ∀ name ∈ bodyFields,
      Http.Header.first? (unsigned r).headers name = Http.Header.first? r.headers name :=
    fun name hname => first?_unsigned (hother name hname) r
  exact handle_congr hquery (body_congr hfields rfl) c e

/-- **An identity without an id counts for nothing.**  Whoever is identified so is answered as the
identity that says nothing would be, alone and from any store, and the store stays the same.  So
it is for a request, too: it is answered as if the fields were missing that say who makes it.  What
libraries add is the same for both. -/
theorem callers_without_id_alike (lib : Libraries) {c : Caller} (hc : c.id = none) (s : Memory)
    {σ : Supply} (hσ : σ.Shaped) :
    (∀ (r : Request) (rest : List Char), ∃ response w,
      alone (route lib c r rest) s σ = (.ok response, w) ∧
        alone (route lib .anonymous r rest) s σ = (.ok response, w) ∧ w.store = s) ∧
    ∀ (scheme : Identity.Scheme) (r : Request), scheme.identify r.headers = .ok c →
      scheme.identify (unsigned r).headers = .ok .anonymous ∧ ∃ response w,
        alone (serve lib scheme r) s σ = (.ok response, w) ∧
          alone (serve lib scheme (unsigned r)) s σ = (.ok response, w) ∧ w.store = s := by
  have hroute : ∀ (r : Request) (rest : List Char), ∃ response w,
      alone (route lib c r rest) s σ = (.ok response, w) ∧
        alone (route lib .anonymous r rest) s σ = (.ok response, w) ∧ w.store = s := by
    intro r rest
    obtain ⟨response, w, hanswered, hsame⟩ := alone_route_of_unknown hc r rest s hσ
    exact ⟨response, w, hanswered, route_of_unknown hc r rest ▸ hanswered, hsame⟩
  refine ⟨hroute, ?_⟩
  intro scheme r hr
  refine ⟨identify_unsigned scheme r, ?_⟩
  have hunsigned : ∀ rest,
      route lib .anonymous (unsigned r) rest = route lib .anonymous r rest := by
    intro rest
    simp only [route, handle_unsigned]
    rfl
  have hpath : (unsigned r).path = r.path := rfl
  unfold serve
  rw [hpath, hr, identify_unsigned]
  cases Endpoint.insideBase? r.path with
  | none => exact ⟨.noRoute, ⟨s, σ, []⟩, rfl, rfl, rfl⟩
  | some rest =>
      dsimp only
      rw [hunsigned]
      exact hroute r rest

/-- A token that claims to be an administrator's, but names nobody, deletes no group. -/
theorem nameless_administrator_refused :
    let lib := Libraries.plain
    let scheme : Identity.Scheme := { kind := .dummy }
    let token := fun content => [("authorization", "Bearer " ++ content)]
    let post : Request :=
      { method := "POST", target := "/api/data/groups",
        headers := ("content-type", "application/json") :: token "\x7b\"id\":\"ada\"\x7d"
        body := Text.bytes "\x7b\"name\":\"Lab\",\"slug\":\"lab\"\x7d" }
    let delete : Request :=
      { method := "DELETE", target := "/api/data/groups/lab",
        headers := token "\x7b\"is_admin\":true\x7d" }
    let made := (alone (serve lib scheme post) {} .counting).2.store
    (made.findGroup "lab").isSome ∧
      ∃ c, scheme.identify delete.headers = .ok c ∧ c.isAdmin ∧ c.id = none ∧
        ∃ response w, alone (serve lib scheme delete) made .counting = (.ok response, w) ∧
          alone (serve lib scheme (unsigned delete)) made .counting = (.ok response, w) ∧
          response.status = 401 ∧ w.store = made := by
  intro lib scheme token post delete made
  have hidentity : scheme.identify delete.headers = .ok { isAdmin := true } := by
    have hcaller : (scheme.identify delete.headers).toOption = some { isAdmin := true } := by
      decide +kernel +zetaReduce
    cases hread : scheme.identify delete.headers with
    | ok c =>
        rw [hread] at hcaller
        exact congrArg Except.ok (Option.some.inj hcaller)
    | error defect =>
        rw [hread] at hcaller
        cases hcaller
  obtain ⟨-, hserve⟩ :=
    callers_without_id_alike lib (c := { isAdmin := true }) rfl made Supply.shaped_counting
  obtain ⟨-, response, w, hsigned, hunsigned, hsame⟩ := hserve scheme delete hidentity
  have hstatus : (alone (serve lib scheme delete) made .counting).1.map (·.status) = .ok 401 := by
    decide +kernel +zetaReduce
  have hrefused : response.status = 401 := status_of_map hstatus (congrArg Prod.fst hsigned)
  exact ⟨by decide +kernel +zetaReduce, _, hidentity, rfl, rfl, response, w, hsigned, hunsigned,
    hrefused, hsame⟩

end Api

end Roster
