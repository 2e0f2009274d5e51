/-
# What requests write

Most questions of a request are looks.  The writes are few, and each service has its own
form of them: `Request.Writes` lists these forms, one constructor for each place in the
services where something is written, with what the request must have been told before.

That no request ever writes anything else is `asks_plan`.  A statement about the writes
of all requests in traffic (`Traffic.Reached.asks`) is then one about the seven forms, and
need not go through the services again.
-/
import Roster.Proofs.Service.Patches

namespace Roster

namespace Store

/-- The call leaves the store as it is. -/
def Call.Looks : Call → Prop
  | .insertGroup .. | .updateGroup _ | .deleteGroup _ | .upsertMembers .. | .deleteMember ..
  | .insertUser _ | .updateProfile _ => False
  | _ => True

theorem Call.Looks.same {c : Call} (h : c.Looks) (s : Memory) : (Memory.answer c s).2 = s := by
  cases c with
  | insertGroup | updateGroup | deleteGroup | upsertMembers | deleteMember | insertUser
  | updateProfile => exact h.elim
  | countGroups | pageGroups | findGroup | listMembers | findMember | countMemberGroups
  | pageMemberGroups | findUser | findUsers | listUsers | findNamespace => rfl

end Store

namespace Service

open Store (Call Memory)

namespace Request

/-- The request makes its caller known, before whatever else it does. -/
def Registers : Request → Caller → Prop
  | .ensureUser c, d | .listNamespaces c .., d => c = d
  | _, _ => False

/-- The writes of a request, in view of what it was answered before, the last answer first. -/
inductive Writes : Request → List Inquiry → Call → Prop where
  /-- A new group is written right after its id was given out, and there was nothing before but a
  look at the clock. -/
  | newGroup {c : Caller} {draft : Group.Draft} {u id : String} {time : Int} {s s' : Memory}
      (hu : c.id = some u) :
      Writes (.createGroup c draft) [⟨.freshId, id, s, s⟩, ⟨.clock, time, s', s'⟩]
        (.insertGroup (.ofDraft draft id u time) (.new id u .owner time))
  | patchedGroup {c : Caller} {slug : String} {p : Group.Patch} {past : List Inquiry}
      {seen g : Group} (hsaw : Saw past slug seen) (hmakes : p.Makes seen g) :
      Writes (.updateGroup c slug p) past (.updateGroup g)
  | deletion {c : Caller} {slug : String} {past : List Inquiry} {seen : Group}
      (hsaw : Saw past slug seen) : Writes (.deleteGroup c slug) past (.deleteGroup seen.id)
  | roles {c : Caller} {slug : String} {changes : List Member.Change} {past : List Inquiry}
      {seen : Group} {time : Int} (hsaw : Saw past slug seen) :
      Writes (.updateMembers c slug changes) past
        (.upsertMembers seen.id
          ((Member.Change.mergeAll changes).map fun d => .new seen.id d.userId d.role time))
  | removal {c : Caller} {slug userId : String} {past : List Inquiry} {seen : Group}
      (hsaw : Saw past slug seen) :
      Writes (.removeMember c slug userId) past (.deleteMember seen.id userId)
  /-- A new user is written under one of the slugs that may be tried, right after its namespace
  was given an id. -/
  | newUser {r : Request} {c : Caller} {id namespaceId : String} {attempt : Nat} {time : Int}
      {s : Memory} {past : List Inquiry} (hr : r.Registers c) (hid : c.id = some id)
      (hattempt : attempt ∈ List.range' 1 Users.maxAttempts) :
      Writes r (⟨.freshId, namespaceId, s, s⟩ :: past)
        (.insertUser (Users.newUser c id (Users.candidate (Users.slugBase c id) attempt)
          namespaceId time))
  | profile {r : Request} {c : Caller} {id : String} {u : User} {time : Int} {s : Memory}
      {past : List Inquiry} (hr : r.Registers c) (hid : c.id = some id)
      (hfound : .ofCall (.findUser id) s ∈ past) (hu : s.users.get? id = some u) :
      Writes r past (.updateProfile
        { u with
          firstName := c.firstName, lastName := c.lastName, email := c.email, updateTime := time })

/-- A question of a request is a look or one of its writes. -/
def Asks (r : Request) (past : List Inquiry) : Ask → Prop
  | .store call => call.Looks ∨ r.Writes past call
  | _ => True

/-- The request looks and never writes. -/
def OnlyLooks : Request → Prop
  | .listGroups _ | .getGroup _ | .listMembers _ | .getNamespace _ | .getUser _ | .listUsers _ =>
      True
  | _ => False

end Request

/-! ## Requests that only look -/

section Looking

variable {α : Type} {I : Memory → Prop} {asks : List Inquiry → Ask → Prop} {past : List Inquiry}

theorem abides_look {c : Call} {k : c.Answer → Service α} (hasks : asks past (.store c))
    (hk : ∀ a past, Abides I asks (fun _ _ => True) (k a) past) :
    Abides I asks (fun _ _ => True) (call c >>= k) past :=
  abides_call hasks (fun _ a _ _ => hk a _) fun _ _ _ _ => trivial

/-- Where looks may be asked for, a request that only looks abides. -/
theorem abides_onlyLooks (hasks : ∀ past c, c.Looks → asks past (.store c)) {r : Request}
    (hr : r.OnlyLooks) : Abides I asks (fun _ _ => True) r.plan past := by
  have hlook : ∀ {α : Type} {c : Call} {k : c.Answer → Service α} {past : List Inquiry}, c.Looks →
      (∀ a past, Abides I asks (fun _ _ => True) (k a) past) →
      Abides I asks (fun _ _ => True) (call c >>= k) past :=
    fun hc hk => abides_look (hasks _ _ hc) hk
  cases r with
  | listGroups page => exact hlook trivial fun _ _ => hlook trivial fun _ _ => trivial
  | getGroup slug =>
      refine hlook trivial fun found past => ?_
      cases found with
      | none => trivial
      | some g => trivial
  | listMembers slug =>
      refine abides_requireGroup (hasks _ _ trivial) (fun _ g _ _ => ?_) fun _ _ => trivial
      exact hlook trivial fun _ _ => hlook trivial fun _ _ => trivial
  | getNamespace slug =>
      refine hlook trivial fun found past => ?_
      cases found with
      | none => trivial
      | some n =>
          dsimp only
          split
          · refine hlook trivial fun found past => ?_
            cases found with
            | none => trivial
            | some g => trivial
          · split
            · trivial
            · refine hlook trivial fun found past => ?_
              cases found with
              | none => trivial
              | some u => trivial
  | getUser id =>
      refine hlook trivial fun found past => ?_
      cases found with
      | none => trivial
      | some u => trivial
  | listUsers email =>
      show Abides _ _ _ (call (.listUsers email)) past
      rw [← Plan.bind_done (call (.listUsers email))]
      exact hlook trivial fun _ _ => trivial
  | createGroup | updateGroup | deleteGroup | updateMembers | removeMember | listNamespaces
  | ensureUser => exact hr.elim

end Looking

namespace Request

/-! ## The services -/

variable {α : Type} {r : Request} {past : List Inquiry}

/-- The plan keeps to the writes of the request, whatever the stores that answer it. -/
abbrev KeepsTo (r : Request) (p : Service α) (past : List Inquiry) : Prop :=
  Abides (fun _ => True) r.Asks (fun _ _ => True) p past

/-- Past the demand for a role, what was seen before is still in the past. -/
theorem keepsTo_requireRole {g seen : Group} {c : Caller} {minimum : Role} {slug : String}
    {k : Unit → Service α} (hsaw : Saw past slug seen)
    (hk : ∀ past, Saw past slug seen → r.KeepsTo (k ()) past) :
    r.KeepsTo (requireRole g c minimum >>= k) past :=
  abides_requireRole (fun _ => .inl trivial) (fun _ => hk past hsaw)
    (fun _ _ _ _ _ _ _ => hk _ (hsaw.cons _)) fun _ _ => trivial

/-- The group that is found is seen. -/
theorem keepsTo_requireGroup {slug : String} {k : Group → Service α}
    (hk : ∀ g past, Saw past slug g → r.KeepsTo (k g) past) :
    r.KeepsTo (requireGroup slug >>= k) past :=
  abides_requireGroup (.inl trivial)
    (fun s g _ hg => hk g _ ⟨s, List.mem_cons_self, hg⟩) fun _ _ => trivial

theorem keepsTo_write {c : Call} {k : c.Answer → Service α} (hc : r.Writes past c)
    (hk : ∀ a past, r.KeepsTo (k a) past) : r.KeepsTo (call c >>= k) past :=
  abides_look (.inr hc) hk

theorem keepsTo_create (c : Caller) (draft : Group.Draft) :
    KeepsTo (.createGroup c draft) (Groups.create c draft) [] := by
  unfold Groups.create
  refine abides_requireLogin (fun u hu => ?_) trivial
  refine abides_now trivial fun time _ _ => ?_
  refine abides_freshId trivial fun id _ _ _ => ?_
  exact keepsTo_write (.newGroup hu) fun _ _ => trivial

theorem keepsTo_update (c : Caller) (slug : String) (p : Group.Patch) :
    KeepsTo (.updateGroup c slug p) (Groups.update c slug p) [] := by
  unfold Groups.update
  split
  · trivial
  · refine abides_requireLogin (fun u _ => ?_) trivial
    refine keepsTo_requireGroup fun g past hsaw => ?_
    refine keepsTo_requireRole hsaw fun past hsaw => ?_
    refine abides_now trivial fun time s _ => ?_
    exact keepsTo_write (.patchedGroup (hsaw.cons _) rfl) fun _ _ => trivial

theorem keepsTo_delete (c : Caller) (slug : String) :
    KeepsTo (.deleteGroup c slug) (Groups.delete c slug) [] := by
  unfold Groups.delete
  refine abides_requireLogin (fun u _ => ?_) trivial
  refine abides_call (.inl trivial) (fun s found _ hfound => ?_) fun _ _ _ _ => trivial
  cases found with
  | none => trivial
  | some g =>
      have hsaw : Saw [.ofCall (.findGroup slug) s] slug g :=
        ⟨s, List.mem_cons_self, Except.ok.inj hfound⟩
      refine keepsTo_requireRole hsaw fun past hsaw => ?_
      exact keepsTo_write (.deletion hsaw) fun _ _ => trivial

theorem keepsTo_updateMembers (c : Caller) (slug : String) (changes : List Member.Change) :
    KeepsTo (.updateMembers c slug changes) (Members.update c slug changes) [] := by
  unfold Members.update
  refine abides_requireLogin (fun u _ => ?_) trivial
  refine keepsTo_requireGroup fun g past hsaw => ?_
  refine keepsTo_requireRole hsaw fun past hsaw => ?_
  dsimp only
  split
  · trivial
  · refine abides_now trivial fun time s _ => ?_
    exact keepsTo_write (.roles (hsaw.cons _)) fun _ _ => trivial

theorem keepsTo_removeMember (c : Caller) (slug userId : String) :
    KeepsTo (.removeMember c slug userId) (Members.remove c slug userId) [] := by
  unfold Members.remove
  refine abides_requireLogin (fun u _ => ?_) trivial
  refine keepsTo_requireGroup fun g past hsaw => ?_
  by_cases hown : u = userId
  · simp only [ne_eq, hown, not_true_eq_false, if_false]
    exact keepsTo_write (.removal hsaw) fun _ _ => trivial
  · simp only [ne_eq, hown, not_false_eq_true, if_true]
    refine keepsTo_requireRole hsaw fun past hsaw => ?_
    exact keepsTo_write (.removal hsaw) fun _ _ => trivial

theorem keepsTo_register {c : Caller} {id : String} (hr : r.Registers c) (hid : c.id = some id)
    {attempts : List Nat} (hattempts : attempts ⊆ List.range' 1 Users.maxAttempts) :
    r.KeepsTo (Users.register c id (Users.slugBase c id) attempts) past := by
  induction attempts generalizing past with
  | nil => trivial
  | cons attempt rest ih =>
      have hnext : ∀ {past}, r.KeepsTo (Users.register c id (Users.slugBase c id) rest) past :=
        ih fun _ h => hattempts (List.mem_cons_of_mem _ h)
      have hattempt : attempt ∈ List.range' 1 Users.maxAttempts := hattempts List.mem_cons_self
      unfold Users.register
      refine abides_look (.inl trivial) fun found past => ?_
      cases found with
      | some n => exact hnext
      | none =>
          refine abides_now trivial fun time _ _ => ?_
          refine abides_freshId trivial fun namespaceId s _ _ => ?_
          refine abides_tryCall (.inr (.newUser hr hid hattempt)) fun s o _ _ => ?_
          cases o with
          | ok _ => trivial
          | error f =>
              dsimp only
              split
              · refine abides_look (.inl trivial) fun existing past => ?_
                cases existing with
                | some u => trivial
                | none => exact hnext
              · trivial

theorem keepsTo_ensure {c : Caller} (hr : r.Registers c) : r.KeepsTo (Users.ensure c) past := by
  unfold Users.ensure
  refine abides_requireLogin (fun id hid => ?_) trivial
  refine abides_call (.inl trivial) (fun s existing _ hexisting => ?_) fun _ _ _ _ => trivial
  cases existing with
  | none => exact keepsTo_register hr hid (List.Subset.refl _)
  | some u =>
      have hu : s.users.get? id = some u := Except.ok.inj hexisting
      show r.KeepsTo (Users.refresh u c) _
      unfold Users.refresh
      split
      · trivial
      · refine abides_now trivial fun time _ _ => ?_
        exact keepsTo_write (.profile hr hid (by simp) hu) fun _ _ => trivial

theorem keepsTo_listNamespaces (c : Caller) (page : Page.Request) (minimum : Option Role) :
    KeepsTo (.listNamespaces c page minimum) (Namespaces.list c page minimum) past := by
  unfold Namespaces.list
  refine abides_requireLogin (fun u _ => ?_) trivial
  have hr : Registers (.listNamespaces c page minimum) c := rfl
  refine abides_bind.mpr ((keepsTo_ensure hr).imp fun past o _ => ?_)
  cases o with
  | error f => trivial
  | ok own =>
      refine abides_look (.inl trivial) fun count past => ?_
      dsimp only
      split
      · trivial
      · exact abides_look (.inl trivial) fun _ _ => trivial

/-- **A request writes nothing else than its writes**, whatever it is answered. -/
theorem asks_plan (r : Request) : r.KeepsTo r.plan [] := by
  cases r with
  | createGroup c draft => exact keepsTo_create c draft
  | updateGroup c slug p => exact keepsTo_update c slug p
  | deleteGroup c slug => exact keepsTo_delete c slug
  | updateMembers c slug changes => exact keepsTo_updateMembers c slug changes
  | removeMember c slug userId => exact keepsTo_removeMember c slug userId
  | listNamespaces c page minimum => exact keepsTo_listNamespaces c page minimum
  | ensureUser c => exact keepsTo_ensure (r := .ensureUser c) rfl
  | listGroups | getGroup | listMembers | getNamespace | getUser | listUsers =>
      exact abides_onlyLooks (fun _ _ hc => .inl hc) trivial

end Request

/-- What the requests of traffic have asked so far, and what they are about to ask. -/
theorem Traffic.Reached.asks {t : Traffic desk} (ht : t.Reached) :
    ∀ f ∈ t.flights, Heeded (fun _ => True) f.request.Asks f.past ∧
      f.request.KeepsTo f.rest f.past :=
  (ht.abides (D := desk) (I := fun _ => True) trivial (fun _ _ _ _ _ _ _ => trivial)
    Request.asks_plan).2

end Service

end Roster
