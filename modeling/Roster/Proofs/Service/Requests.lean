/-
# The requests of the service

Everything that can be asked of the service, as the `Desk` at which traffic arrives.

The plans of the requests are put together from a few building blocks: a caller is
asked for, a group is looked up, a role is demanded, a call is made.  For each of
them there is one rule, which says what is left to be shown of a plan that begins
with it (`abides_requireGroup` and its like).  Statements about all requests in
traffic go through the code of the services with these rules.
-/
import Roster.Proofs.Alone
import Roster.Proofs.Store.Rows
import Roster.Service.Groups
import Roster.Service.Members
import Roster.Service.Namespaces

namespace Roster.Service

open Store (Call Memory)

/-- What can be asked of the service. -/
inductive Request where
  | listGroups (page : Page.Request)
  | createGroup (c : Caller) (draft : Group.Draft)
  | getGroup (slug : String)
  | updateGroup (c : Caller) (slug : String) (patch : Group.Patch)
  | deleteGroup (c : Caller) (slug : String)
  | listMembers (slug : String)
  | updateMembers (c : Caller) (slug : String) (changes : List Member.Change)
  | removeMember (c : Caller) (slug userId : String)
  | listNamespaces (c : Caller) (page : Page.Request) (minimum : Option Role)
  | getNamespace (slug : String)
  | ensureUser (c : Caller)
  | getUser (id : String)
  | listUsers (email : Option String)

namespace Request

/-- What a request is answered, unless it fails. -/
abbrev Result : Request → Type
  | listGroups _ => List Group × Page.Summary
  | createGroup .. => Group
  | getGroup _ => Group
  | updateGroup .. => Group
  | deleteGroup .. => Unit
  | listMembers _ => List Member.View
  | updateMembers .. => List Member.Change
  | removeMember .. => Unit
  | listNamespaces .. => List Namespace.View × Page.Summary
  | getNamespace _ => Namespace.View
  | ensureUser _ => User
  | getUser _ => User
  | listUsers _ => List User

/-- The service that carries out a request. -/
def plan : (r : Request) → Service r.Result
  | listGroups page => Groups.list page
  | createGroup c draft => Groups.create c draft
  | getGroup slug => Groups.get slug
  | updateGroup c slug patch => Groups.update c slug patch
  | deleteGroup c slug => Groups.delete c slug
  | listMembers slug => Members.list slug
  | updateMembers c slug changes => Members.update c slug changes
  | removeMember c slug userId => Members.remove c slug userId
  | listNamespaces c page minimum => Namespaces.list c page minimum
  | getNamespace slug => Namespaces.get slug
  | ensureUser c => Users.ensure c
  | getUser id => Users.get id
  | listUsers email => Users.list email

/-- The caller of a request that asks for one. -/
def caller? : Request → Option Caller
  | createGroup c _ | updateGroup c .. | deleteGroup c _ | updateMembers c .. | removeMember c ..
  | listNamespaces c .. | ensureUser c => some c
  | _ => none

/-- The role that a request demands in the group that it changes. -/
def requiredRole? : Request → Option Role
  | updateGroup .. => some .editor
  | deleteGroup .. | updateMembers .. | removeMember .. => some .owner
  | _ => none

end Request

/-- The desk of the service. -/
abbrev desk : Desk := ⟨Request, Request.Result, Request.plan⟩

/-- Whatever is asked, slugs are kept. -/
theorem keeps_slugsKept (asks : List Inquiry → Ask → Prop) : Keeps Memory.SlugsKept asks := by
  intro past e _ hs he _
  exact he.moves (R := fun s s' => s.SlugsKept → s'.SlugsKept) (fun _ => id)
    (fun c _ => Memory.answer_slugsKept c) hs

theorem Traffic.Reached.slugsKept {D : Desk} {t : Traffic D} (ht : t.Reached) :
    t.store.SlugsKept :=
  ht.store_inv Memory.slugsKept_empty fun c _ => Memory.answer_slugsKept c

/-! ## The rules of the building blocks -/

section Rules

variable {β : Type} {I : Memory → Prop} {asks : List Inquiry → Ask → Prop}
  {ends : List Inquiry → Except Fault β → Prop} {past : List Inquiry}

theorem abides_call {c : Call} {k : c.Answer → Service β} (hasks : asks past (.store c))
    (hok : ∀ s a, I s → (Memory.answer c s).1 = .ok a →
      Abides I asks ends (k a) (.ofCall c s :: past))
    (herr : ∀ s f, I s → (Memory.answer c s).1 = .error f →
      ends (.ofCall c s :: past) (.error f)) :
    Abides I asks ends (call c >>= k) past := by
  unfold call
  rw [Plan.ask_bind, abides_ask_store]
  refine ⟨hasks, fun s hs => ?_⟩
  cases h : (Memory.answer c s).1 with
  | ok a => exact hok s a hs h
  | error f => exact herr s f hs h

theorem abides_tryCall {c : Call} {k : Except Fault c.Answer → Service β}
    (hasks : asks past (.store c))
    (hk : ∀ s o, I s → (Memory.answer c s).1 = o → Abides I asks ends (k o) (.ofCall c s :: past)) :
    Abides I asks ends (tryCall c >>= k) past :=
  abides_ask_store.mpr ⟨hasks, fun s hs => hk s _ hs rfl⟩

theorem abides_now {k : Int → Service β} (hasks : asks past .clock)
    (hk : ∀ time s, I s → Abides I asks ends (k time) (⟨.clock, time, s, s⟩ :: past)) :
    Abides I asks ends (now >>= k) past :=
  abides_ask_clock.mpr ⟨hasks, hk⟩

theorem abides_freshId {k : String → Service β} (hasks : asks past .freshId)
    (hk : ∀ id s, Ulid.Shaped id → I s → Abides I asks ends (k id) (⟨.freshId, id, s, s⟩ :: past)) :
    Abides I asks ends (freshId >>= k) past :=
  abides_ask_freshId.mpr ⟨hasks, hk⟩

theorem abides_requireLogin {c : Caller} {k : String → Service β}
    (hsome : ∀ id, c.id = some id → Abides I asks ends (k id) past)
    (hnone : ends past (.error .loginRequired)) :
    Abides I asks ends (requireLogin c >>= k) past := by
  unfold requireLogin
  split
  · next id hid => exact hsome id hid
  · exact hnone

theorem abides_requireGroup {slug : String} {k : Group → Service β}
    (hasks : asks past (.store (.findGroup slug)))
    (hsome : ∀ s g, I s → s.findGroup slug = some g →
      Abides I asks ends (k g) (.ofCall (.findGroup slug) s :: past))
    (hnone : ∀ s, I s → ends (.ofCall (.findGroup slug) s :: past) (.error (.groupUnknown slug))) :
    Abides I asks ends (requireGroup slug >>= k) past := by
  unfold requireGroup
  rw [Plan.bind_assoc]
  refine abides_call hasks (fun s a hs ha => ?_) nofun
  cases ha
  cases h : s.findGroup slug with
  | some g => exact hsome s g hs h
  | none => exact hnone s hs

/-- Past the demand for a role, the caller is an administrator, or a membership with the role has
been seen. -/
theorem abides_requireRole {g : Group} {c : Caller} {minimum : Role} {k : Unit → Service β}
    (hasks : ∀ id, asks past (.store (.findMember g.id id)))
    (hadmin : c.isAdmin → Abides I asks ends (k ()) past)
    (hmember : ∀ id s m, c.id = some id → I s → s.findMember g.id id = some m → minimum ≤ m.role →
      Abides I asks ends (k ()) (.ofCall (.findMember g.id id) s :: past))
    (hfail : ∀ past f, ends past (.error f)) :
    Abides I asks ends (requireRole g c minimum >>= k) past := by
  unfold requireRole
  rw [Plan.bind_assoc]
  refine abides_requireLogin (fun id hid => ?_) (hfail _ _)
  split
  · next h => exact hadmin h
  · rw [Plan.bind_assoc]
    refine abides_call (hasks id) (fun s a hs ha => ?_) nofun
    cases ha
    cases h : s.findMember g.id id with
    | none => exact hfail _ _
    | some m =>
        by_cases hrole : minimum ≤ m.role
        · simp only [if_pos hrole]
          exact hmember id s m hid hs h hrole
        · simp only [if_neg hrole]
          exact hfail _ _

end Rules

/-! ## The building blocks alone -/

section Alone

variable {β : Type} {w : World}

theorem run_requireGroup {slug : String} {g : Group} (hg : w.store.findGroup slug = some g)
    (k : Group → Service β) :
    (requireGroup slug >>= k).run World.answer w =
      (k g).run World.answer (w.after (.findGroup slug)) := by
  rw [requireGroup, Plan.bind_assoc, run_call]
  simp only [Memory.answer, hg]
  rfl

/-- The demand for a role is met by an administrator, and by a member with the role; it leaves the
store and the supply as they are, whatever comes next. -/
theorem run_requireRole {g : Group} {c : Caller} {id : String} {minimum : Role}
    (hid : c.id = some id)
    (hright : c.isAdmin ∨ ∃ m, w.store.findMember g.id id = some m ∧ minimum ≤ m.role) :
    ∃ w' : World, w'.store = w.store ∧ w'.supply = w.supply ∧ ∀ k : Unit → Service β,
      (requireRole g c minimum >>= k).run World.answer w = (k ()).run World.answer w' := by
  unfold requireRole requireLogin
  rw [hid]
  by_cases hadmin : c.isAdmin
  · exact ⟨w, rfl, rfl, fun k => by rw [Plan.done_bind, if_pos hadmin]; rfl⟩
  · obtain ⟨m, hm, hle⟩ := hright.resolve_left hadmin
    refine ⟨w.after (.findMember g.id id), rfl, rfl, fun k => ?_⟩
    rw [Plan.done_bind, if_neg hadmin, Plan.bind_assoc, run_call]
    simp only [Memory.answer, hm, if_pos hle]
    rfl

/-- Anybody else with an id is told which role is missing, whatever would have come next. -/
theorem run_requireRole_of_not {g : Group} {c : Caller} {id : String} {minimum : Role}
    (hid : c.id = some id)
    (hno : ¬ (c.isAdmin ∨ ∃ m, w.store.findMember g.id id = some m ∧ minimum ≤ m.role)) :
    ∃ w' : World, w'.store = w.store ∧ w'.supply = w.supply ∧ ∀ k : Unit → Service β,
      (requireRole g c minimum >>= k).run World.answer w =
        (.error (.roleRequired minimum g.slug), w') := by
  obtain ⟨hadmin, hrole⟩ := not_or.mp hno
  unfold requireRole requireLogin
  rw [hid]
  refine ⟨w.after (.findMember g.id id), rfl, rfl, fun k => ?_⟩
  rw [Plan.done_bind, if_neg hadmin, Plan.bind_assoc, run_call]
  simp only [Memory.answer]
  cases hm : w.store.findMember g.id id with
  | none => rfl
  | some m =>
      dsimp only
      rw [if_neg fun hle => hrole ⟨m, hm, hle⟩]
      rfl

end Alone

/-! ## Registering a caller -/

section Registering

/-- A question by which a caller is known or registered.  None of them concerns groups. -/
def OfUsers : Ask → Prop
  | .store (.findNamespace _) | .store (.findUser _) | .store (.insertUser _)
  | .store (.updateProfile _) | .clock | .freshId => True
  | _ => False

/-- A user is not added because of a conflict: over the slug, or over the id. -/
theorem answer_insertUser_error {s : Memory} {u : User} {f : Fault}
    (h : (Memory.answer (.insertUser u) s).1 = .error f) :
    f.kind = .conflict ∧ (Memory.answer (.insertUser u) s).2 = s ∧
      (s.namespaces.contains u.slug ∨ s.users.contains u.id) := by
  simp only [Memory.answer, Memory.insertUser] at h ⊢
  split at h
  · next hslug =>
      cases h
      rw [if_pos hslug]
      exact ⟨rfl, rfl, .inl hslug⟩
  · next hslug =>
      split at h
      · next hid =>
          cases h
          rw [if_neg hslug, if_pos hid]
          exact ⟨rfl, rfl, .inr hid⟩
      · cases h

variable {I : Memory → Prop} {asks : List Inquiry → Ask → Prop}
  {ends : List Inquiry → Except Fault User → Prop} {past : List Inquiry}

/-- What an attempt to register leaves behind, whether it finds its slug taken or loses it: the
statement `J` about the attempts left and the past is carried from one attempt to the next.  A
conflict over the user's id and no such user afterwards (`hlost`) is told apart from one over the
slug (`htaken`). -/
theorem abides_register_of {c : Caller} {id base : String} {J : List Nat → List Inquiry → Prop}
    (hasks : ∀ past q, OfUsers q → asks past q)
    (hstay : ∀ left past (e : Inquiry), J left past → e.after = e.before → J left (e :: past))
    (htaken : ∀ attempt left past (e : Inquiry), J (attempt :: left) (e :: past) → I e.before →
      e.before.namespaces.contains (Users.candidate base attempt) → J left (e :: past))
    (hlost : ∀ attempt left past (d e : Inquiry), J (attempt :: left) (e :: d :: past) →
      d.after.users.contains id → e.before.users.get? id = none → J left (e :: d :: past))
    (hnew : ∀ past s slug namespaceId time, I s →
      (Memory.answer (.insertUser (Users.newUser c id slug namespaceId time)) s).1 = .ok () →
        ends (.ofCall (.insertUser (Users.newUser c id slug namespaceId time)) s :: past)
          (.ok (Users.newUser c id slug namespaceId time)))
    (hknown : ∀ past s u, I s → s.users.get? id = some u →
      ends (.ofCall (.findUser id) s :: past) (.ok u))
    (hout : ∀ past, J [] past → ends past (.error (.noSlugLeft id)))
    {attempts : List Nat} (hJ : J attempts past) :
    Abides I asks ends (Users.register c id base attempts) past := by
  induction attempts generalizing past with
  | nil => exact hout past hJ
  | cons attempt rest ih =>
      unfold Users.register
      refine abides_call (hasks _ _ trivial) (fun s found hs hfound => ?_) nofun
      cases hfound
      have hlooked := hstay _ _ (.ofCall (.findNamespace (Users.candidate base attempt)) s) hJ rfl
      cases hslug : s.namespaces.get? (Users.candidate base attempt) with
      | some n =>
          exact ih (htaken _ _ _ _ hlooked hs (Table.contains_iff.mpr ⟨n, hslug⟩))
      | none =>
          refine abides_now (hasks _ _ trivial) fun time s _ => ?_
          refine abides_freshId (hasks _ _ trivial) fun namespaceId s' _ _ => ?_
          refine abides_tryCall (hasks _ _ trivial) fun s₁ o hs₁ ho => ?_
          have hready := hstay _ _ ⟨.freshId, namespaceId, s', s'⟩
            (hstay _ _ ⟨.clock, time, s, s⟩ hlooked rfl) rfl
          cases o with
          | ok _ => exact hnew _ s₁ _ _ _ hs₁ ho
          | error f =>
              obtain ⟨hkind, hsame, hwhy⟩ := answer_insertUser_error ho
              have htried := hstay _ _ (.ofCall (.insertUser _) s₁) hready hsame
              dsimp only
              rw [if_pos hkind]
              refine abides_call (hasks _ _ trivial) (fun s₂ existing hs₂ hexisting => ?_) nofun
              cases hexisting
              have hback := hstay _ _ (.ofCall (.findUser id) s₂) htried rfl
              cases hid : s₂.users.get? id with
              | some u => exact hknown _ s₂ u hs₂ hid
              | none =>
                  refine ih ?_
                  rcases hwhy with hslug | huser
                  · exact hstay _ _ _ (htaken _ _ _ _ htried hs₁ hslug) rfl
                  · refine hlost _ _ _ _ _ hback ?_ hid
                    rw [show (Inquiry.ofCall (.insertUser _) s₁).after = s₁ from hsame]
                    exact huser

/-- Each attempt asks for the slug, the time and an id, and tries to insert the user; a conflict
leads to a look at the users or to the next attempt. -/
theorem abides_register (hasks : ∀ past q, OfUsers q → asks past q) (hends : ∀ past o, ends past o)
    (c : Caller) (id base : String) (attempts : List Nat) :
    Abides I asks ends (Users.register c id base attempts) past :=
  abides_register_of (J := fun _ _ => True) hasks (fun _ _ _ _ _ => trivial)
    (fun _ _ _ _ _ _ _ => trivial) (fun _ _ _ _ _ _ _ _ => trivial)
    (fun _ _ _ _ _ _ _ => hends _ _) (fun _ _ _ _ _ => hends _ _) (fun _ _ => hends _ _) trivial

/-- A known user is answered as it is found, or with the profile of the caller. -/
theorem abides_refresh_of {c : Caller} {u : User} (hasks : ∀ past q, OfUsers q → asks past q)
    (hsame : ends past (.ok u))
    (hchanged : ∀ s s' time,
      let changed : User :=
        { u with
          firstName := c.firstName, lastName := c.lastName, email := c.email, updateTime := time }
      ends (.ofCall (.updateProfile changed) s' :: ⟨.clock, time, s, s⟩ :: past) (.ok changed)) :
    Abides I asks ends (Users.refresh u c) past := by
  unfold Users.refresh
  split
  · exact hsame
  · refine abides_now (hasks _ _ trivial) fun time s _ => ?_
    exact abides_call (hasks _ _ trivial) (fun s' _ _ _ => hchanged s s' time) nofun

theorem abides_refresh (hasks : ∀ past q, OfUsers q → asks past q) (hends : ∀ past o, ends past o)
    (u : User) (c : Caller) : Abides I asks ends (Users.refresh u c) past :=
  abides_refresh_of hasks (hends _ _) fun _ _ _ => hends _ _

/-- A caller is known or registered by questions of users only. -/
theorem abides_ensure (hasks : ∀ past q, OfUsers q → asks past q) (hends : ∀ past o, ends past o)
    (c : Caller) : Abides I asks ends (Users.ensure c) past := by
  unfold Users.ensure
  refine abides_requireLogin (fun id _ => ?_) (hends _ _)
  refine abides_call (hasks _ _ trivial) (fun s existing _ _ => ?_) fun _ _ _ _ => hends _ _
  cases existing with
  | some u => exact abides_refresh hasks hends u c
  | none => exact abides_register hasks hends c id _ _

end Registering

end Roster.Service
