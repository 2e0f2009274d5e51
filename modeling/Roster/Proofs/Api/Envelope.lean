/-
# How failures are told

A failure can come from many places: the identity, the body or the query of a request, its
texts, a service, the store.  All of them are told through one function (`Api.failure`), so
their bodies have one form, with a code that follows from the status; and of what fails
inside the service nothing is told but that it has.

A request that no route matches is the exception.  Nobody has a word for it, and its
response has no body at all.
-/
import Roster.Proofs.Api.Handling
import Roster.Proofs.Ends

namespace Roster

open Http (Request Response)

namespace Api

/-- The body that tells of a failure. -/
def envelope (code : Nat) (message : String) (detail : Option String) : Json :=
  .object [("error", .object ([("code", .int code), ("message", .string message)] ++
    detail.toList.map fun text => ("detail", .string text)))]

/-- The response tells of a failure in the envelope, and of one inside the service it says only
that it was not expected. -/
def TellsFailure (response : Response) : Prop :=
  ∃ message detail,
    response = .json response.status (envelope (1000 + response.status) message detail) ∧
      (response.status = 500 → message = "An unexpected error occurred" ∧ detail = none)

/-- No route matches: the path is below no base path, or a caller that is identified asks below
one for what is no endpoint. -/
def LeadsNowhere (scheme : Identity.Scheme) (r : Request) : Prop :=
  match Endpoint.insideBase? r.path with
  | none => True
  | some rest => (∃ c, scheme.identify r.headers = .ok c) ∧ Endpoint.of? r.method rest = none

/-- What is responded to a request: nothing but a status if it leads nowhere, and otherwise a
success or the word of a failure. -/
def Told (scheme : Identity.Scheme) (r : Request) (response : Response) : Prop :=
  (LeadsNowhere scheme r → response = .empty 404) ∧
    (¬ LeadsNowhere scheme r → Succeeds response ∨ TellsFailure response)

end Api

theorem Report.body_eq_envelope (report : Report) :
    report.body =
      Api.envelope (1000 + report.kind.status) report.publicMessage report.publicDetail := by
  unfold Report.body
  cases report.publicDetail with
  | none => rfl
  | some text => rfl

/-- Of a failure inside the service a client learns neither the message nor the detail. -/
theorem Report.public_of_status_eq_500 {report : Report} (h : report.kind.status = 500) :
    report.publicMessage = "An unexpected error occurred" ∧ report.publicDetail = none := by
  obtain ⟨kind, message, detail⟩ := report
  cases kind with
  | database | json | io | internal => exact ⟨rfl, rfl⟩
  | _ => cases h

namespace Api

open Service (Supply Traffic World alone)

variable {scheme : Identity.Scheme} {r : Request}

theorem tellsFailure_failure (report : Report) : TellsFailure (failure report) := by
  refine ⟨report.publicMessage, report.publicDetail, ?_, Report.public_of_status_eq_500⟩
  rw [failure, report.body_eq_envelope]
  rfl

/-- An endpoint ends with a success or with a failure. -/
theorem Handles.ends {P : Service.Request → Prop} {Q : Except Fault Response → Prop}
    {p : Service Response} (hp : Handles P p)
    (hdone : ∀ response, Succeeds response → Q (.ok response)) (hfail : ∀ f, Q (.error f)) :
    p.Ends Q := by
  cases hp with
  | done h => exact hdone _ h
  | fail f => exact hfail f
  | service q hq h =>
      refine Plan.ends_bind.mpr (Plan.ends_of_forall fun o => ?_)
      cases o with
      | ok a => exact hdone _ (h a)
      | error f => exact hfail f

theorem told_noRoute (h : LeadsNowhere scheme r) : Told scheme r .noRoute :=
  ⟨fun _ => rfl, fun hroute => absurd h hroute⟩

theorem told_of_route {response : Response} (hroute : ¬ LeadsNowhere scheme r)
    (h : Succeeds response ∨ TellsFailure response) : Told scheme r response :=
  ⟨fun hnowhere => absurd hnowhere hroute, fun _ => h⟩

/-- A request is always answered, and told what became of it. -/
theorem ends_serve (lib : Libraries) (scheme : Identity.Scheme) (r : Request) :
    (serve lib scheme r).Ends fun o => ∃ response, o = .ok response ∧ Told scheme r response := by
  unfold serve
  cases hbase : Endpoint.insideBase? r.path with
  | none => exact ⟨_, rfl, told_noRoute (by simp [LeadsNowhere, hbase])⟩
  | some rest =>
      cases hcaller : scheme.identify r.headers with
      | error defect =>
          have hroute : ¬ LeadsNowhere scheme r := by simp [LeadsNowhere, hbase, hcaller]
          have htold := tellsFailure_failure (defect.report lib.json)
          exact ⟨_, rfl, told_of_route hroute (.inr htold)⟩
      | ok c =>
          dsimp only
          unfold route
          cases hendpoint : Endpoint.of? r.method rest with
          | none =>
              exact ⟨_, rfl, told_noRoute (by simp [LeadsNowhere, hbase, hcaller, hendpoint])⟩
          | some e =>
              have hroute : ¬ LeadsNowhere scheme r := by simp [LeadsNowhere, hbase, hendpoint]
              refine Plan.ends_bind.mpr (Plan.ends_attempt.mpr ?_)
              refine (handles_handle lib c r e).ends (fun response h => ?_) fun f => ?_
              · exact ⟨response, rfl, told_of_route hroute (.inl h)⟩
              · exact ⟨_, rfl, told_of_route hroute (.inr (tellsFailure_failure f.report))⟩

/-- What leads somewhere and is no success is told as a failure. -/
theorem Told.tellsFailure {response : Response} (h : Told scheme r response)
    (hroute : ¬ LeadsNowhere scheme r) (hfails : ¬ Succeeds response) : TellsFailure response :=
  (h.2 hroute).resolve_left hfails

/-- There is one response only with the status 500. -/
theorem Told.eq_of_status {response : Response} (h : Told scheme r response)
    (hstatus : response.status = 500) :
    response = .json 500 (envelope 1500 "An unexpected error occurred" none) := by
  by_cases hnowhere : LeadsNowhere scheme r
  · rw [h.1 hnowhere] at hstatus
    cases hstatus
  · have hfails : ¬ Succeeds response := by
      rw [Succeeds, hstatus]
      decide
    obtain ⟨message, detail, hresponse, hhidden⟩ := h.tellsFailure hnowhere hfails
    obtain ⟨rfl, rfl⟩ := hhidden hstatus
    rw [hresponse, hstatus]

/-- **Failures are told alike**, to every request, whatever its questions are answered and
whatever libraries add: each run ends with a response, and so does each request in traffic.  A
response that is no success tells of the failure in the envelope, and all that have the status 500
are the same.  Only a request that leads nowhere is told nothing. -/
theorem failures_told_alike (lib : Libraries) (scheme : Identity.Scheme) (r : Request) :
    (∀ {σ : Type} (answer : (q : Ask) → σ → q.Answer × σ) (s : σ), ∃ response,
      ((serve lib scheme r).run answer s).1 = .ok response ∧ Told scheme r response) ∧
    (∀ {t : Traffic (desk scheme)}, t.Reached → ∀ f ∈ t.flights, f.request = (lib, r) →
      ∀ response, f.rest = .done response → Told scheme r response) ∧
    ∀ {scheme' : Identity.Scheme} {r' : Request} {response response' : Response},
      Told scheme r response → Told scheme' r' response' → response.status = 500 →
        response'.status = 500 → response' = response := by
  refine ⟨?_, ?_, ?_⟩
  · intro σ answer s
    exact (ends_serve lib scheme r).run answer s
  · intro t ht f hf hrequest response hdone
    obtain ⟨-, hflights⟩ := Traffic.Reached.abides (D := desk scheme) (I := fun _ => True) trivial
      (fun _ _ _ _ _ _ _ => trivial) (fun q => (ends_serve q.1 scheme q.2).abides) ht
    obtain ⟨-, hends⟩ := hflights f hf
    rw [hdone] at hends
    obtain ⟨answered, hanswered, htold⟩ := hends
    cases hanswered
    rw [hrequest] at htold
    exact htold
  · intro scheme' r' response response' h h' hstatus hstatus'
    rw [h.eq_of_status hstatus, h'.eq_of_status hstatus']

/-- Whatever is asked of the store is refused with a code. -/
def refusing (code : Int) : (q : Ask) → Unit → q.Answer × Unit
  | .store _, _ => (.error (.commandRefused code), ())
  | .clock, _ => (0, ())
  | .freshId, _ => ("", ())

/-- Two requests to which the store refuses different things are told the same; a group that is not
there is a failure, too, and told as one. -/
theorem refusals_of_store_told_alike :
    let lib := Libraries.plain
    let scheme : Identity.Scheme := { kind := .gateway }
    let list : Request := ⟨"GET", "/api/data/groups", [], []⟩
    let get : Request := ⟨"GET", "/ui-server/api/data/groups/lab", [], []⟩
    ∃ response, ((serve lib scheme list).run (refusing 13) ()).1 = .ok response ∧
      ((serve lib scheme get).run (refusing 112) ()).1 = .ok response ∧ response.status = 500 ∧
      TellsFailure response ∧
      ∃ t : Traffic (desk scheme), t.Reached ∧ ∃ f ∈ t.flights, f.request = (lib, get) ∧
        ∃ absent, f.rest = .done absent ∧ absent.status = 404 ∧ TellsFailure absent := by
  intro lib scheme list get
  obtain ⟨hlist, -, hsame⟩ := failures_told_alike lib scheme list
  obtain ⟨hget, htraffic, -⟩ := failures_told_alike lib scheme get
  obtain ⟨response, hresponse, htold⟩ := hlist (refusing 13) ()
  obtain ⟨response', hresponse', htold'⟩ := hget (refusing 112) ()
  have hstatus : ((serve lib scheme list).run (refusing 13) ()).1.map (·.status) = .ok 500 := by
    decide +kernel +zetaReduce
  have hstatus' : ((serve lib scheme get).run (refusing 112) ()).1.map (·.status) = .ok 500 := by
    decide +kernel +zetaReduce
  have hinside : response.status = 500 := status_of_map hstatus hresponse
  have hinside' : response'.status = 500 := status_of_map hstatus' hresponse'
  obtain rfl : response' = response := hsame htold htold' hinside hinside'
  have hroute : ¬ LeadsNowhere scheme get := by
    have hbase : Endpoint.insideBase? get.path = some "/groups/lab".toList := by decide +kernel
    rw [LeadsNowhere, hbase]
    intro hnowhere
    exact absurd hnowhere.2 (by decide +kernel)
  have hrefused : TellsFailure response' :=
    htold'.tellsFailure hroute (by rw [Succeeds, hinside']; decide)
  -- The group is not there in the traffic that is nothing but the one request.
  have hreached : (⟨_, _⟩ : Traffic (desk scheme)).Reached :=
    Traffic.Reached.alone (D := desk scheme) .refl (lib, get) Supply.shaped_counting
  have habsent : (alone (serve lib scheme get) {} .counting).1.map (·.status) = .ok 404 := by
    decide +kernel +zetaReduce
  obtain ⟨absent, hanswer, -⟩ := hget World.answer ⟨{}, .counting, []⟩
  have hended : (Plan.ofExcept (alone (serve lib scheme get) {} .counting).1 :
      Service Response) = .done absent := by
    rw [alone, hanswer]
    rfl
  have hmissing : absent.status = 404 := status_of_map habsent hanswer
  have htoldAbsent : Told scheme get absent :=
    htraffic hreached _ (List.mem_singleton.mpr rfl) rfl absent hended
  exact ⟨_, hresponse, hresponse', hinside, hrefused, _, hreached, _, List.mem_singleton.mpr rfl,
    rfl, absent, hended, hmissing,
    htoldAbsent.tellsFailure hroute (by rw [Succeeds, hmissing]; decide)⟩

/-- It is not so that every response that is no success tells of its failure in the envelope. -/
theorem unmatched_request_told_nothing :
    ¬ ∀ {scheme : Identity.Scheme} {t : Traffic (desk scheme)}, t.Reached →
      ∀ (lib : Libraries) (r : Request) (σ : Supply), σ.Shaped → ∀ response,
        (alone (serve lib scheme r) t.store σ).1 = .ok response →
          ¬ (200 ≤ response.status ∧ response.status < 300) →
            ∃ message detail,
              response.body = some (envelope (1000 + response.status) message detail) := by
  intro hall
  let nowhere : Request := ⟨"GET", "/api/data/nowhere", [], []⟩
  have hempty : (⟨{}, []⟩ : Traffic (desk { kind := .gateway })).Reached := .refl
  have hnowhere : LeadsNowhere { kind := .gateway } nowhere := by
    have hbase : Endpoint.insideBase? nowhere.path = some "/nowhere".toList := by decide +kernel
    rw [LeadsNowhere, hbase]
    exact ⟨⟨.anonymous, rfl⟩, by decide +kernel⟩
  obtain ⟨response, hresponse, htold, -⟩ :=
    (ends_serve .plain { kind := .gateway } nowhere).run World.answer ⟨{}, .counting, []⟩
  cases htold hnowhere
  obtain ⟨message, detail, hbody⟩ :=
    hall hempty .plain nowhere .counting Supply.shaped_counting _ hresponse (by decide)
  cases hbody

end Api

end Roster
