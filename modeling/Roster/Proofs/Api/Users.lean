/-
# Who changes users

The record of a user is made and kept up to date in passing, whenever the user asks for
it or for namespaces.  So two of the requests that read also write; what they write is
the caller's own (`Effect`).

The statement about a request alone is one about its questions.  Each of them has an
effect of one of three kinds, by `Service.Request.Asks.effect`, and since a request has
one caller and one endpoint, the kinds do not mix (`Effect.trans`).
-/
import Roster.Proofs.Api.Handling
import Roster.Proofs.Service.Effects
import Roster.Proofs.Service.Registration

namespace Roster.Api

open Http (Request Response)
open Service (Abides Inquiry Supply Traffic alone)
open Store (Memory)
open Store.Memory (SlugsKept)

namespace Endpoint

/-- The method of the requests that lead to an endpoint. -/
def method : Endpoint → String
  | createGroup => "POST"
  | patchGroup _ | patchMembers _ => "PATCH"
  | deleteGroup _ | removeMember .. => "DELETE"
  | _ => "GET"

theorem method_of_ofSegments? {m : String} {segments : List String} {e : Endpoint}
    (h : ofSegments? m segments = some e) : m = e.method := by
  unfold ofSegments? at h
  split at h <;> cases h <;> rfl

theorem method_of_of? {m : String} {rest : List Char} {e : Endpoint} (h : of? m rest = some e) :
    m = e.method := by
  unfold of? at h
  split at h
  · split at h
    · cases h
    · exact method_of_ofSegments? h
  · cases h

/-- The endpoint shows something of the caller, who becomes known by asking. -/
def IsOwn (e : Endpoint) : Prop := e = .ownUser ∨ e = .listNamespaces

variable {c d : Caller} {e : Endpoint} {q : Service.Request}

theorem TurnsTo.registers (h : e.TurnsTo c q) (hq : q.Registers d) : d = c ∧ e.IsOwn := by
  cases h with
  | ownUser => exact ⟨hq.symm, .inl rfl⟩
  | listNamespaces page minimum => exact ⟨hq.symm, .inr rfl⟩
  | _ => exact hq.elim

theorem TurnsTo.changesGroups (h : e.TurnsTo c q) (hq : q.ChangesGroups) : e.method ≠ "GET" := by
  cases h with
  | createGroup | patchGroup | deleteGroup | patchMembers | removeMember => simp [method]
  | _ => exact hq.elim

end Endpoint

section Serving

variable {lib : Libraries} {scheme : Identity.Scheme} {r : Request} {c c' : Caller}
  {e e' : Endpoint}

/-- A request has one caller and one endpoint. -/
theorem Reaches.unique (h : Reaches scheme r c e) (h' : Reaches scheme r c' e') :
    c' = c ∧ e' = e := by
  obtain ⟨rest, hbase, hcaller, hendpoint⟩ := h
  obtain ⟨rest', hbase', hcaller', hendpoint'⟩ := h'
  cases hbase.symm.trans hbase'
  cases hcaller.symm.trans hcaller'
  cases hendpoint.symm.trans hendpoint'
  exact ⟨rfl, rfl⟩

theorem Reaches.method (h : Reaches scheme r c e) : r.method = e.method := by
  obtain ⟨rest, -, -, hendpoint⟩ := h
  exact Endpoint.method_of_of? hendpoint

/-- The request asks on behalf of the caller for something of the caller's own. -/
def AsksForOwn (scheme : Identity.Scheme) (r : Request) (c : Caller) : Prop :=
  ∃ e, Reaches scheme r c e ∧ e.IsOwn

theorem AsksForOwn.unique (h : AsksForOwn scheme r c) (h' : AsksForOwn scheme r c') : c' = c := by
  obtain ⟨e, hreaches, -⟩ := h
  obtain ⟨e', hreaches', -⟩ := h'
  exact (hreaches.unique hreaches').1

theorem AsksForOwn.method (h : AsksForOwn scheme r c) : r.method = "GET" := by
  obtain ⟨e, hreaches, rfl | rfl⟩ := h
  · exact hreaches.method
  · exact hreaches.method

/-- What a request can do to the store. -/
inductive Effect (scheme : Identity.Scheme) (r : Request) (s : Memory) : Memory → Prop where
  | nothing : Effect scheme r s s
  /-- The record of the caller is made or brought up to date. -/
  | own {c : Caller} {id : String} {s' : Memory} (hr : AsksForOwn scheme r c) (hid : c.id = some id)
      (h : s.OnlyUser id s') : Effect scheme r s s'
  /-- Groups and memberships may change, by a request that is no look. -/
  | groups {s' : Memory} (hr : r.method ≠ "GET") (h : s'.users = s.users) : Effect scheme r s s'

theorem Effect.trans {s s' s'' : Memory} (h : Effect scheme r s s') (h' : Effect scheme r s' s'') :
    Effect scheme r s s'' := by
  cases h with
  | nothing => exact h'
  | own hr hid hown =>
      cases h' with
      | nothing => exact .own hr hid hown
      | own hr' hid' hown' =>
          cases hr.unique hr'
          cases hid.symm.trans hid'
          exact .own hr' hid (hown.trans hown')
      | groups hr' _ => exact absurd hr.method hr'
  | groups hr husers =>
      cases h' with
      | nothing => exact .groups hr husers
      | own hr' _ _ => exact absurd hr'.method hr
      | groups _ husers' => exact .groups hr (husers'.trans husers)

/-- The effect of a request is that of the service to which its endpoint turns. -/
theorem Reaches.effect {q : Service.Request} {s s' : Memory} (hreaches : Reaches scheme r c e)
    (hturns : e.TurnsTo c q) (h : q.Effect s s') : Effect scheme r s s' := by
  cases h with
  | nothing => exact .nothing
  | own hr hid hown =>
      obtain ⟨rfl, he⟩ := hturns.registers hr
      exact .own ⟨e, hreaches, he⟩ hid hown
  | groups hr husers => exact .groups (hreaches.method ▸ hturns.changesGroups hr) husers

/-- A question of an HTTP request is one of the service that its endpoint turns to. -/
def Asks (scheme : Identity.Scheme) (r : Request) (past : List Inquiry) (q : Ask) : Prop :=
  ∃ c e, ∃ asked : Service.Request, Reaches scheme r c e ∧ e.TurnsTo c asked ∧ asked.Asks past q

theorem asks_serve (lib : Libraries) (scheme : Identity.Scheme) (r : Request) :
    Abides SlugsKept (Asks scheme r) (fun _ _ => True) (serve lib scheme r) [] := by
  refine abides_serve (fun _ => trivial) lib scheme r fun c e hreaches => ?_
  refine (handles_handle lib c r e).abides_asks fun q hq => ?_
  refine q.asks_plan.mono (fun _ _ => trivial) trivial ?_
  intro past ask _ hasks
  exact ⟨c, e, q, hreaches, hq, hasks⟩

/-- **What a request does alone**, from a store that keeps the slugs. -/
theorem effect_serve (lib : Libraries) (r : Request) {s : Memory} (hs : s.SlugsKept) {σ : Supply}
    (hσ : σ.Shaped) : Effect scheme r s (alone (serve lib scheme r) s σ).2.store := by
  obtain ⟨-, hheeded, -⟩ :=
    Abides.alone (Service.keeps_slugsKept _) hσ hs (asks_serve lib scheme r)
  refine (Service.chained_alone _ s σ).moves (fun _ => .nothing) Effect.trans ?_
  intro d hd
  obtain ⟨earlier, hsub, -, hpossible, c, e, q, hreaches, hturns, hasks⟩ := hheeded.of_mem hd
  -- The record that a question writes was found in a store that keeps the slugs, too.
  have hearlier : ∀ d ∈ earlier, d.before.SlugsKept := by
    intro d hd
    obtain ⟨-, -, hbefore, -⟩ := hheeded.of_mem (hsub.subset hd)
    exact hbefore
  exact hreaches.effect hturns (hasks.effect hearlier hpossible)

/-- **Users are changed by themselves only**, as far as requests are served alone, from any store
that can be reached.  A record changes only if its user asks for something of its own, and then
nothing else changes, except that a new user brings its namespace.  Whoever asks for what, users
stay as they were registered, and nobody who gets anything changes a group or a membership. -/
theorem users_changed_by_themselves {t : Traffic (desk scheme)} (ht : t.Reached)
    (lib : Libraries) (r : Request) {σ : Supply} (hσ : σ.Shaped) :
    let s := t.store
    let s' := (alone (serve lib scheme r) s σ).2.store
    (∀ id, s'.users.get? id ≠ s.users.get? id → ∃ c, AsksForOwn scheme r c ∧ c.id = some id) ∧
    (∀ c id, AsksForOwn scheme r c → c.id = some id → r.method = "GET" ∧ s.OnlyUser id s') ∧
    (∀ id u, s.users.get? id = some u → ∃ u', s'.users.get? id = some u' ∧ u'.id = u.id ∧
      u'.slug = u.slug ∧ u'.namespaceId = u.namespaceId ∧ u'.createTime = u.createTime) ∧
    (r.method = "GET" → s'.groups = s.groups ∧ s'.members = s.members) := by
  intro s s'
  have hs : s.SlugsKept := ht.slugsKept
  have hs' : s'.SlugsKept := (ht.alone (lib, r) hσ).slugsKept
  have heffect : Effect scheme r s s' := effect_serve lib r hs hσ
  clear_value s'
  refine ⟨?_, ?_, ?_, ?_⟩
  · intro id hne
    cases heffect with
    | nothing => exact absurd rfl hne
    | @own c k _ hr hid hown =>
        by_cases hk : id = k
        · exact ⟨c, hr, hk ▸ hid⟩
        · exact absurd (hown.others hk) hne
    | groups hr husers => exact absurd (congrArg (·.get? id) husers) hne
  · intro c id hr hid
    refine ⟨hr.method, ?_⟩
    cases heffect with
    | nothing => exact .same
    | own hr' hid' hown =>
        cases hr.unique hr'
        cases hid.symm.trans hid'
        exact hown
    | groups hr' _ => exact absurd hr.method hr'
  · intro id u hu
    have hstay : s.UsersStay s' := by
      cases heffect with
      | nothing => exact .refl s
      | own _ _ hown => exact hown.usersStay
      | groups _ husers => exact .of_eq husers
    obtain ⟨u', hu', hstanding⟩ := hstay id u hu
    simp only [User.standing, Prod.mk.injEq] at hstanding
    exact ⟨u', hu', (hs'.users hu').trans (hs.users hu).symm, hstanding⟩
  · intro hget
    cases heffect with
    | nothing => exact ⟨rfl, rfl⟩
    | own _ _ hown => exact hown.groups
    | groups hr _ => exact absurd hget hr

end Serving

/-- Ada is registered under one first name, and asks for namespaces under another. -/
theorem own_name_changed_by_listing :
    let lib := Libraries.plain
    let scheme : Identity.Scheme := { kind := .gateway }
    let identity := fun name => [("X-Forwarded-User", "ada"), ("X-Forwarded-First-Name", name)]
    let first : Request := ⟨"GET", "/api/data/user", identity "Ada", []⟩
    let again : Request := ⟨"GET", "/api/data/namespaces", identity "Augusta", []⟩
    let known := (alone (serve lib scheme first) {} .counting).2.store
    let later := (alone (serve lib scheme again) known .counting).2.store
    AsksForOwn scheme again { id := some "ada", firstName := some "Augusta" } ∧
      known.OnlyUser "ada" later ∧
      (known.users.get? "ada").map User.firstName = some (some "Ada") ∧
      (later.users.get? "ada").map User.firstName = some (some "Augusta") := by
  intro lib scheme identity first again known later
  have hknown : (⟨known, _⟩ : Traffic (desk scheme)).Reached :=
    Traffic.Reached.alone (D := desk scheme) .refl (lib, first) Supply.shaped_counting
  have hasks : AsksForOwn scheme again { id := some "ada", firstName := some "Augusta" } :=
    ⟨.listNamespaces, ⟨"/namespaces".toList, by decide +kernel, by rfl, by decide +kernel⟩,
      .inr rfl⟩
  obtain ⟨-, hown, -⟩ := users_changed_by_themselves hknown lib again Supply.shaped_counting
  exact ⟨hasks, (hown _ _ hasks rfl).2, by decide +kernel +zetaReduce,
    by decide +kernel +zetaReduce⟩

end Roster.Api
