/-
# Who can register

A caller becomes known by asking for the own user or for a page of namespaces.  Both
endpoints begin with `Users.ensure`, and what follows never fails; so their status says
whether the caller could be registered.

Only so many slugs are tried.  A caller whose slugs are all taken is refused, although a
slug further on would be free.
-/
import Roster.Proofs.Api.Handling
import Roster.Proofs.Service.Attempts

namespace Roster.Api

open Http (Request Response)
open Service (Supply Traffic World alone inTurn Users.candidate Users.slugBase)
open Store (Memory)

/-! ## Asking for the caller -/

section Alone

variable {lib : Libraries} {scheme : Identity.Scheme} {r : Request} {c : Caller} {e : Endpoint}

/-- The request asks for the user of the caller or, with a query that can be read and the numbers
of a page, for namespaces of the caller. -/
def AsksForCaller (r : Request) : Endpoint → Prop
  | .ownUser => True
  | .listNamespaces => ∃ asked minimum page, Page.Asked.ofQuery r.query = .ok asked ∧
      Role.minimumOfQuery r.query = .ok minimum ∧
      Page.Request.ofOptional asked.page asked.perPage = .ok page
  | _ => False

/-- The plan ends with a response of status 200, whatever the store. -/
def AlwaysFine (p : Service Response) : Prop :=
  ∀ w, ∃ response w', p.run World.answer w = (.ok response, w') ∧ response.status = 200

/-- An endpoint that is asked for the caller makes the caller known, and does not fail after
that. -/
theorem handle_asksForCaller {id : String} (hid : c.id = some id) (h : AsksForCaller r e) :
    ∃ k, e.handle lib c r = (Service.Users.ensure c >>= k) ∧ ∀ u, AlwaysFine (k u) := by
  cases e with
  | ownUser => exact ⟨_, rfl, fun u w => ⟨_, w, rfl, rfl⟩⟩
  | listNamespaces =>
      obtain ⟨asked, minimum, page, hasked, hminimum, hpage⟩ := h
      have hhandle : Endpoint.handle lib c r .listNamespaces =
          (Service.Namespaces.list c page minimum >>= fun shown =>
            .done (paged (shown.1.map Namespace.View.response) shown.2)) := by
        simp only [Endpoint.handle, query, pageOf, hasked, hminimum, required, Plan.done_bind,
          hpage]
        rfl
      rw [hhandle, Service.Namespaces.list, Service.requireLogin, hid, Plan.done_bind,
        Plan.bind_assoc]
      refine ⟨_, rfl, fun u w => ?_⟩
      rw [Plan.bind_assoc, Service.run_call]
      simp only [Memory.answer]
      split
      · exact ⟨_, _, rfl, rfl⟩
      · exact ⟨_, _, rfl, rfl⟩
  | _ => exact h.elim

/-- The status tells whether the caller became known. -/
theorem status_of_ensure {id : String} (hid : c.id = some id) (hr : Reaches scheme r c e)
    (hasks : AsksForCaller r e) (s : Memory) (σ : Supply) :
    ∃ response, (alone (serve lib scheme r) s σ).1 = .ok response ∧
      ((∃ u, (alone (Service.Users.ensure c) s σ).1 = .ok u) → response.status = 200) ∧
      ∀ f, (alone (Service.Users.ensure c) s σ).1 = .error f →
        response.status = f.kind.status ∧
          (alone (serve lib scheme r) s σ).2 = (alone (Service.Users.ensure c) s σ).2 := by
  obtain ⟨k, hhandle, hfine⟩ := handle_asksForCaller hid hasks
  rw [alone_serve hr]
  refine ⟨_, rfl, ?_⟩
  unfold alone
  rw [hhandle, Plan.run_bind]
  obtain ⟨o, w⟩ := (Service.Users.ensure c).run World.answer ⟨s, σ, []⟩
  cases o with
  | ok u =>
      obtain ⟨response, w', hrun, hstatus⟩ := hfine u w
      refine ⟨fun _ => ?_, nofun⟩
      dsimp only
      rw [hrun]
      exact hstatus
  | error f =>
      refine ⟨fun ⟨_, hu⟩ => (nomatch hu), fun f' hf' => ?_⟩
      cases hf'
      exact ⟨rfl, rfl⟩

end Alone

/-- **A caller alone can register if and only if it is known or one of twenty slugs is free**: in
any store that the services can reach, whatever the identity.  Some slug of the unending list is
always free, but a caller that would have to go further than `base-20` is refused with an internal
error, and nothing has changed then.  Requests for the caller's user or namespaces are answered
accordingly. -/
theorem registered_iff_slug_left {t : Traffic Service.desk} (ht : t.Reached) {c : Caller}
    {id : String} (hid : c.id = some id) (σ : Supply) :
    let slug := Users.candidate (Users.slugBase c id)
    let left := (∃ u, t.store.users.get? id = some u) ∨
      ∃ n, 1 ≤ n ∧ n ≤ 20 ∧ t.store.Free (slug n)
    (∃ n, 1 ≤ n ∧ t.store.Free (slug n)) ∧
    (left → ∃ u, (alone (Service.Users.ensure c) t.store σ).1 = .ok u) ∧
    (¬ left → (alone (Service.Users.ensure c) t.store σ).1 = .error (.noSlugLeft id) ∧
      (alone (Service.Users.ensure c) t.store σ).2.store = t.store) ∧
    ∀ lib scheme r e, Reaches scheme r c e → AsksForCaller r e →
      ∃ response, (alone (serve lib scheme r) t.store σ).1 = .ok response ∧
        (left → response.status = 200) ∧
        (¬ left →
          response.status = 500 ∧ (alone (serve lib scheme r) t.store σ).2.store = t.store) := by
  intro slug left
  have hslugs : t.store.SlugsKept := ht.kept.1.slugs
  have hleft : Service.CanRegister t.store c id ↔ left := by
    refine or_congr Table.contains_iff ⟨?_, ?_⟩
    · rintro ⟨n, hn, hfree⟩
      obtain ⟨hone, hlt⟩ := List.mem_range'_1.mp hn
      exact ⟨n, hone, Nat.lt_add_one_iff.mp (Nat.add_comm 1 20 ▸ hlt), hslugs.free_iff.mpr hfree⟩
    · rintro ⟨n, hone, hle, hfree⟩
      exact ⟨n, List.mem_range'_1.mpr ⟨hone, Nat.add_comm 1 20 ▸ Nat.lt_add_one_iff.mpr hle⟩,
        hslugs.free_iff.mp hfree⟩
  obtain ⟨hcan, hcannot⟩ := Service.alone_ensure hid t.store σ
  rw [hleft] at hcan hcannot
  refine ⟨?_, hcan, hcannot, fun lib scheme r e hr hasks => ?_⟩
  · obtain ⟨n, hone, hfree⟩ := Service.Users.exists_free_candidate t.store (Users.slugBase c id)
    exact ⟨n, hone, hslugs.free_iff.mpr hfree⟩
  · obtain ⟨response, hresponse, hfine, hfailed⟩ := status_of_ensure hid hr hasks t.store σ
    refine ⟨response, hresponse, fun h => hfine (hcan h), fun h => ?_⟩
    obtain ⟨hstatus, hsame⟩ := hfailed _ (hcannot h).1
    rw [hsame]
    exact ⟨hstatus, (hcannot h).2⟩

/-! ## A caller that is refused -/

/-- Twenty callers whose addresses begin alike. -/
def namesakes : List Caller :=
  (List.range 20).map fun n => { id := some (toString n), email := some "ada@lab" }

/-- The store after they have registered one after the other. -/
def crowded : Memory := (inTurn (namesakes.map Service.Users.ensure) default .counting).2

/-- One more of them. -/
def latecomer : Caller := { id := some "20", email := some "ada@lab" }

theorem crowded_reached : ∃ t : Traffic Service.desk, t.Reached ∧ t.store = crowded := by
  have hempty : (⟨{}, []⟩ : Traffic Service.desk).Reached := .refl
  obtain ⟨fs, hreached⟩ := hempty.inTurn Service.Request.ensureUser Service.Users.ensure
    (fun _ _ _ => rfl) namesakes Supply.shaped_counting
  refine ⟨⟨crowded, fs⟩, ?_, ?_⟩
  · rw [crowded]
    exact hreached
  · rfl

theorem latecomer_cannot_register : ¬ Service.CanRegister crowded latecomer "20" := by
  unfold Service.CanRegister
  decide +kernel

/-- The latecomer is refused, by the service and over HTTP, although some slug would be free. -/
theorem latecomer_refused :
    let request : Request :=
      { method := "GET", target := "/api/data/user",
        headers := [("X-Forwarded-User", "20"), ("X-Forwarded-Email", "ada@lab")] }
    (alone (Service.Users.ensure latecomer) crowded .counting).1 = .error (.noSlugLeft "20") ∧
    (∃ n, 1 ≤ n ∧ crowded.Free (Users.candidate (Users.slugBase latecomer "20") n)) ∧
    ∃ response,
      (alone (serve .plain { kind := .gateway } request) crowded .counting).1 = .ok response ∧
        response.status = 500 := by
  intro request
  obtain ⟨t, hreached, hstore⟩ := crowded_reached
  have hslugs : t.store.SlugsKept := hreached.kept.1.slugs
  obtain ⟨hfree, -, hrefused, hserved⟩ :=
    registered_iff_slug_left hreached (c := latecomer) rfl .counting
  rw [hstore] at hslugs hfree hrefused hserved
  have hleft : ¬ ((∃ u, crowded.users.get? "20" = some u) ∨
      ∃ n, 1 ≤ n ∧ n ≤ 20 ∧ crowded.Free (Users.candidate (Users.slugBase latecomer "20") n)) := by
    rintro (hknown | ⟨n, hone, hle, hfree⟩)
    · exact latecomer_cannot_register (.inl (Table.contains_iff.mpr hknown))
    · exact latecomer_cannot_register
        (.inr ⟨n, List.mem_range'_1.mpr ⟨hone, Nat.lt_add_one_of_le hle⟩, hslugs.free_iff.mp hfree⟩)
  have hreaches : Reaches { kind := .gateway } request latecomer .ownUser :=
    ⟨"/user".toList, by decide +kernel, by rfl, by decide +kernel⟩
  obtain ⟨response, hresponse, -, hstatus⟩ := hserved _ _ _ _ hreaches trivial
  exact ⟨(hrefused hleft).1, hfree, response, hresponse, (hstatus hleft).1⟩

/-- It is not so that every caller can register in every store that the services can reach. -/
theorem registration_can_fail :
    ¬ ∀ {t : Traffic Service.desk}, t.Reached → ∀ (c : Caller) (id : String), c.id = some id →
      ∀ σ : Supply, σ.Shaped → ∃ u, (alone (Service.Users.ensure c) t.store σ).1 = .ok u := by
  intro hall
  obtain ⟨t, hreached, hstore⟩ := crowded_reached
  obtain ⟨u, hu⟩ := hall hreached latecomer "20" rfl .counting Supply.shaped_counting
  obtain ⟨-, hcannot⟩ := Service.alone_ensure (c := latecomer) rfl t.store .counting
  rw [(hcannot (hstore ▸ latecomer_cannot_register)).1] at hu
  cases hu

end Roster.Api
