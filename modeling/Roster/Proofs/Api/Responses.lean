/-
# What a response tells of the store

Whoever reads a status other than a success knows that nothing has happened.  Before
an endpoint turns to its service it only reads the request, and reading asks nothing;
after the service has ended well, the response is a success.  So what is left is what
holds of the services: one that fails has changed nothing (`failsIdle_plan`).
-/
import Roster.Proofs.Api.Handling
import Roster.Proofs.Service.Failures

namespace Roster.Api

open Http (Request Response)
open Service (Abides Inquiry Untouched Supply Traffic World alone failsIdle_plan)
open Service.Request (untouched_nil)
open Store (Memory)

/-- A request is always answered, and if it is not answered with a success, it has changed
nothing. -/
theorem answers_serve (lib : Libraries) (scheme : Identity.Scheme) (r : Request) :
    Abides (fun _ => True) (fun _ _ => True)
      (fun past o => ∃ response, o = .ok response ∧ (¬ Succeeds response → Untouched past))
      (serve lib scheme r) [] := by
  refine abides_serve (fun _ => ⟨_, rfl, fun _ => untouched_nil⟩) lib scheme r fun c e _ => ?_
  refine (handles_handle lib c r e).abides (fun response h => ⟨response, rfl, fun hfails => ?_⟩)
    (fun f => ⟨_, rfl, fun _ => untouched_nil⟩) fun q _ => ?_
  · exact absurd h hfails
  · refine (failsIdle_plan q untouched_nil).imp fun past o hends => ?_
    cases o with
    | ok a => exact fun response h => ⟨response, rfl, fun hfails => absurd h hfails⟩
    | error f => exact ⟨_, rfl, fun _ => hends f rfl⟩

/-- **Only a success tells of a change.**  A request that is served alone is answered, from any
store, and unless the answer is a success the store is the same as before.  In traffic the same
holds of the share that the request has in what happens. -/
theorem changes_answered_with_success (lib : Libraries) (scheme : Identity.Scheme) (r : Request) :
    (∀ (s : Memory) (σ : Supply), σ.Shaped → ∃ response,
      (alone (serve lib scheme r) s σ).1 = .ok response ∧
        (¬ (200 ≤ response.status ∧ response.status < 300) →
          (alone (serve lib scheme r) s σ).2.store = s)) ∧
    ∀ {t : Traffic (desk scheme)}, t.Reached → ∀ f ∈ t.flights, f.request = (lib, r) →
      ∀ response, f.rest = .done response →
        ¬ (200 ≤ response.status ∧ response.status < 300) → ∀ e ∈ f.past, e.after = e.before := by
  have hkeeps : Service.Keeps (fun _ => True) fun _ _ => True := fun _ _ _ _ _ _ => trivial
  refine ⟨fun s σ hσ => ?_, fun {t} ht f hf hr response hdone hfails => ?_⟩
  · obtain ⟨-, -, response, hresponse, hidle⟩ :=
      Abides.alone hkeeps hσ trivial (answers_serve lib scheme r) (s := s)
    refine ⟨response, hresponse, fun hfails => ?_⟩
    exact ((Service.chained_alone (serve lib scheme r) s σ).before_eq (hidle hfails)).1
  · obtain ⟨-, hflights⟩ := @Traffic.Reached.abides (desk scheme) (fun _ => True)
      (fun _ _ _ => True) _ trivial (fun _ => hkeeps) (fun q => answers_serve q.1 scheme q.2) t ht
    obtain ⟨-, hends⟩ := hflights f hf
    rw [hdone] at hends
    obtain ⟨answered, hanswered, hidle⟩ := hends
    cases hanswered
    exact hidle hfails

/-- Who asks twice for a group is refused the second time, alone and in traffic, and nothing has
changed then.  The body is a gzip stream of one stored block, and the libraries know such
streams. -/
theorem second_group_of_slug_changes_nothing :
    let lib : Libraries :=
      { Libraries.plain with
        unpack := fun _ body => { pieces := [(body.drop 15).take (body.length - 23)] } }
    let scheme : Identity.Scheme := { kind := .dummy }
    let post : Request :=
      { method := "POST", target := "/api/data/groups",
        headers := [("content-type", "application/json"), ("content-encoding", "gzip"),
          ("authorization", "Bearer \x7b\"id\":\"ada\"\x7d")]
        body := [0x1f, 0x8b, 8, 0, 0, 0, 0, 0, 0, 0xff, 1, 27, 0, 0xe4, 0xff] ++
          Text.bytes "\x7b\"name\":\"Lab\",\"slug\":\"lab\"\x7d" ++
          [0x4d, 0x2e, 0xb4, 0x84, 27, 0, 0, 0] }
    let made := (alone (serve lib scheme post) {} .counting).2
    (made.store.findGroup "lab").isSome ∧
      ∃ response, (alone (serve lib scheme post) made.store made.supply).1 = .ok response ∧
        response.status = 409 ∧
        (alone (serve lib scheme post) made.store made.supply).2.store = made.store ∧
        ∃ t : Traffic (desk scheme), t.Reached ∧ ∃ f ∈ t.flights, f.request = (lib, post) ∧
          f.rest = .done response ∧ f.past ≠ [] ∧ ∀ e ∈ f.past, e.after = e.before := by
  intro lib scheme post made
  obtain ⟨halone, htraffic⟩ := changes_answered_with_success lib scheme post
  have hmade : (⟨made.store, _⟩ : Traffic (desk scheme)).Reached :=
    Traffic.Reached.alone (D := desk scheme) .refl (lib, post) Supply.shaped_counting
  have hshaped : made.supply.Shaped :=
    World.shaped_run (w := ⟨{}, .counting, []⟩) Supply.shaped_counting
  have hserved := hmade.alone (D := desk scheme) (lib, post) hshaped
  have hstatus : (alone (serve lib scheme post) made.store made.supply).1.map (·.status) =
      .ok 409 := by decide +kernel +zetaReduce
  have hasked : (alone (serve lib scheme post) made.store made.supply).2.log.isEmpty = false := by
    decide +kernel +zetaReduce
  obtain ⟨response, hresponse, hsame⟩ := halone made.store made.supply hshaped
  have hrefused : response.status = 409 := status_of_map hstatus hresponse
  have hfails : ¬ (200 ≤ response.status ∧ response.status < 300) := by
    rw [hrefused]
    decide
  have hended :
      (Plan.ofExcept (alone (serve lib scheme post) made.store made.supply).1 : Service Response) =
        .done response := by
    rw [hresponse]
    rfl
  refine ⟨by decide +kernel +zetaReduce, response, hresponse, hrefused, hsame hfails, _, hserved,
    _, List.mem_append_right _ List.mem_cons_self, rfl, hended, ?_, ?_⟩
  · exact List.isEmpty_eq_false_iff.mp hasked
  · exact htraffic hserved _ (List.mem_append_right _ List.mem_cons_self) rfl response hended hfails

end Roster.Api
