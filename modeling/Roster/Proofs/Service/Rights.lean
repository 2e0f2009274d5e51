/-
# Rights in traffic

A service looks a group up by its slug, checks the caller's role, and writes later.
In between the slug may pass to another group, and the caller may lose the role.
What holds all the same is that the write concerns the very group that was checked:
it names the group by its id.

`Entitled` says of a question what a request must have seen before it may ask it.
Every plan abides by that, whatever the others do (`abides_plan`), by one lemma for
each service; and a call changes nothing of any group but its target
(`Memory.answer_atGroup`).  From both follows who can change a group, and that
memberships stay where they can be found.
-/
import Roster.Proofs.Service.Requests

namespace Roster.Service

open Store (Call Memory MadeFor)
open Store.Memory (Kept)

/-! ## What a request must have seen -/

/-- Nothing was changed by what was asked so far. -/
def Untouched (past : List Inquiry) : Prop := ∀ e ∈ past, e.after = e.before

namespace Request

/-- What a request must have for a call that changes a group: a caller with an id, who is an
administrator, or who removes itself, or who had the role that the request demands in that group,
in a store that the request has met. -/
def MayChange (r : Request) (past : List Inquiry) (groupId : String) (call : Call) : Prop :=
  ∃ c u role, r.caller? = some c ∧ c.id = some u ∧ r.requiredRole? = some role ∧
    (c.isAdmin ∨
      (∃ slug, r = .removeMember c slug u ∧ call = .deleteMember groupId u) ∨
      ∃ d ∈ past, ∃ held, d.before.HasRole u groupId held ∧ role ≤ held)

/-- A call is proper, and one that is meant to change a group comes after nothing but looks, with
the right to do so. -/
def Entitled (r : Request) (past : List Inquiry) : Ask → Prop
  | .store call => call.Proper ∧ ∀ groupId, call.target? = some groupId →
      Untouched past ∧ r.MayChange past groupId call
  | _ => True

variable {r : Request} {past past' : List Inquiry} {groupId : String} {c : Call}

theorem MayChange.mono (h : r.MayChange past groupId c) (hp : past ⊆ past') :
    r.MayChange past' groupId c := by
  obtain ⟨caller, u, role, hc, hu, hrole, hright⟩ := h
  refine ⟨caller, u, role, hc, hu, hrole, hright.imp_right fun h => h.imp_right ?_⟩
  rintro ⟨d, hd, held⟩
  exact ⟨d, hp hd, held⟩

theorem untouched_nil : Untouched [] := fun _ he => absurd he List.not_mem_nil

theorem untouched_cons {e : Inquiry} (he : e.after = e.before) (h : Untouched past) :
    Untouched (e :: past) := by
  intro d hd
  rcases List.mem_cons.mp hd with rfl | hd
  · exact he
  · exact h d hd

/-- Questions of users concern no group. -/
theorem entitled_ofUsers {q : Ask} (hq : OfUsers q) : r.Entitled past q := by
  cases q with
  | clock | freshId => trivial
  | store call =>
      cases call with
      | findNamespace | findUser | insertUser | updateProfile => exact ⟨trivial, nofun⟩
      | _ => exact hq.elim

/-- What a request may ask keeps the store. -/
theorem keeps_entitled (r : Request) : Keeps Kept r.Entitled := by
  intro past e _ hs he hq
  cases he with
  | call c s => exact Memory.answer_kept hq.1 hs
  | clock now s => exact hs
  | freshId s _ => exact hs

/-! ## The services -/

variable {α β : Type}

/-- The plan asks only what the request may ask. -/
abbrev Heeds (r : Request) (p : Service α) (past : List Inquiry) : Prop :=
  Abides Kept r.Entitled (fun _ _ => True) p past

/-- Past the demand for the role of the request, the group may be changed. -/
theorem heeds_requireRole {g : Group} {c : Caller} {u : String} {role : Role} {k : Unit → Service α}
    (hc : r.caller? = some c) (hu : c.id = some u) (hrole : r.requiredRole? = some role)
    (hg : Ulid.Shaped g.id) (hpast : Untouched past)
    (hk : ∀ past, Untouched past → (∀ call, r.MayChange past g.id call) → r.Heeds (k ()) past) :
    r.Heeds (requireRole g c role >>= k) past := by
  refine abides_requireRole (fun _ => ⟨trivial, nofun⟩) (fun hadmin => ?_)
    (fun id s m hid hs hm hle => ?_) fun _ _ => trivial
  · exact hk past hpast fun call => ⟨c, u, role, hc, hu, hrole, .inl hadmin⟩
  · cases hu.symm.trans hid
    have hheld := hs.rows.hasRole hg hm
    refine hk _ (untouched_cons rfl hpast) fun call => ⟨c, u, role, hc, hu, hrole, .inr (.inr ?_)⟩
    exact ⟨_, List.mem_cons_self, m.role, hheld, hle⟩

/-- A write that may be made is the last thing that is asked. -/
theorem heeds_write {k : c.Answer → Service α} (hc : c.Proper) (htarget : c.target? = some groupId)
    (hpast : Untouched past) (hright : r.MayChange past groupId c)
    (hk : ∀ a past, r.Heeds (k a) past) : r.Heeds (call c >>= k) past := by
  refine abides_call ⟨hc, fun id hid => ?_⟩ (fun _ a _ _ => hk a _) fun _ _ _ _ => trivial
  cases htarget.symm.trans hid
  exact ⟨hpast, hright⟩

theorem heeds_create (c : Caller) (draft : Group.Draft) :
    Heeds (.createGroup c draft) (Groups.create c draft) [] := by
  unfold Groups.create
  refine abides_requireLogin (fun u _ => ?_) trivial
  refine abides_now trivial fun time _ _ => ?_
  refine abides_freshId trivial fun id _ hid _ => ?_
  refine abides_call ⟨⟨hid, Store.madeFor_new ..⟩, nofun⟩ (fun _ _ _ _ => trivial)
    fun _ _ _ _ => trivial

theorem heeds_update (c : Caller) (slug : String) (patch : Group.Patch) :
    Heeds (.updateGroup c slug patch) (Groups.update c slug patch) [] := by
  unfold Groups.update
  split
  · trivial
  · refine abides_requireLogin (fun u hu => ?_) trivial
    refine abides_requireGroup ⟨trivial, nofun⟩ (fun s g hs hg => ?_) fun _ _ => trivial
    refine heeds_requireRole rfl hu rfl (hs.shaped_of_findGroup hg)
      (untouched_cons rfl untouched_nil) fun past hpast hmay => ?_
    refine abides_now trivial fun time s _ => ?_
    exact heeds_write trivial rfl (untouched_cons rfl hpast)
      ((hmay _).mono (List.subset_cons_self _ _)) fun _ _ => trivial

theorem heeds_delete (c : Caller) (slug : String) :
    Heeds (.deleteGroup c slug) (Groups.delete c slug) [] := by
  unfold Groups.delete
  refine abides_requireLogin (fun u hu => ?_) trivial
  refine abides_call ⟨trivial, nofun⟩ (fun s found hs hfound => ?_) fun _ _ _ _ => trivial
  cases found with
  | none => trivial
  | some g =>
      have hg : Ulid.Shaped g.id := hs.shaped_of_findGroup (Except.ok.inj hfound)
      refine heeds_requireRole rfl hu rfl hg (untouched_cons rfl untouched_nil)
        fun past hpast hmay => ?_
      exact heeds_write trivial rfl hpast (hmay _) fun _ _ => trivial

theorem heeds_updateMembers (c : Caller) (slug : String) (changes : List Member.Change) :
    Heeds (.updateMembers c slug changes) (Members.update c slug changes) [] := by
  unfold Members.update
  refine abides_requireLogin (fun u hu => ?_) trivial
  refine abides_requireGroup ⟨trivial, nofun⟩ (fun s g hs hg => ?_) fun _ _ => trivial
  refine heeds_requireRole rfl hu rfl (hs.shaped_of_findGroup hg)
    (untouched_cons rfl untouched_nil) fun past hpast hmay => ?_
  dsimp only
  split
  · trivial
  · refine abides_now trivial fun time s _ => ?_
    refine heeds_write ?_ rfl (untouched_cons rfl hpast)
      ((hmay _).mono (List.subset_cons_self _ _)) fun _ _ => trivial
    intro m hm
    obtain ⟨d, -, rfl⟩ := List.mem_map.mp hm
    exact Store.madeFor_new ..

/-- The one write without a look at a role is the removal of the caller. -/
theorem heeds_removeMember (c : Caller) (slug userId : String) :
    Heeds (.removeMember c slug userId) (Members.remove c slug userId) [] := by
  unfold Members.remove
  refine abides_requireLogin (fun u hu => ?_) trivial
  refine abides_requireGroup ⟨trivial, nofun⟩ (fun s g hs hg => ?_) fun _ _ => trivial
  have hshaped : Ulid.Shaped g.id := hs.shaped_of_findGroup hg
  by_cases hown : u = userId
  · subst hown
    simp only [ne_eq, not_true_eq_false, if_false]
    have hmay : MayChange (.removeMember c slug u) [.ofCall (.findGroup slug) s] g.id
        (.deleteMember g.id u) :=
      ⟨c, u, .owner, rfl, hu, rfl, .inr (.inl ⟨slug, rfl, rfl⟩)⟩
    exact heeds_write hshaped rfl (untouched_cons rfl untouched_nil) hmay fun _ _ => trivial
  · simp only [ne_eq, hown, not_false_eq_true, if_true]
    refine heeds_requireRole rfl hu rfl hshaped (untouched_cons rfl untouched_nil)
      fun past hpast hmay => ?_
    exact heeds_write hshaped rfl hpast (hmay _) fun _ _ => trivial

/-- Lookups concern no group but for looking. -/
theorem heeds_look {k : c.Answer → Service α} (hc : c.Proper) (htarget : c.target? = none)
    (hk : ∀ a past, r.Heeds (k a) past) : r.Heeds (call c >>= k) past := by
  refine abides_call ⟨hc, fun id hid => ?_⟩ (fun _ a _ _ => hk a _) fun _ _ _ _ => trivial
  rw [htarget] at hid
  cases hid

theorem heeds_requireGroup {slug : String} {k : Group → Service α}
    (hk : ∀ g past, r.Heeds (k g) past) : r.Heeds (requireGroup slug >>= k) past :=
  abides_requireGroup ⟨trivial, nofun⟩ (fun _ g _ _ => hk g _) fun _ _ => trivial

theorem heeds_listNamespaces (c : Caller) (page : Page.Request) (minimum : Option Role) :
    r.Heeds (Namespaces.list c page minimum) past := by
  unfold Namespaces.list
  refine abides_requireLogin (fun u _ => ?_) trivial
  refine abides_bind.mpr ((abides_ensure (fun _ _ => entitled_ofUsers) (fun past o => ?_) c))
  cases o with
  | error f => trivial
  | ok own =>
      refine heeds_look trivial rfl fun count past => ?_
      dsimp only
      split
      · trivial
      · exact heeds_look trivial rfl fun _ _ => trivial

theorem heeds_getNamespace (slug : String) : r.Heeds (Namespaces.get slug) past := by
  unfold Namespaces.get
  refine heeds_look trivial rfl fun found past => ?_
  cases found with
  | none => trivial
  | some n =>
      dsimp only
      split
      · refine heeds_look trivial rfl fun found past => ?_
        cases found with
        | none => trivial
        | some g => trivial
      · split
        · trivial
        · refine heeds_look trivial rfl fun found past => ?_
          cases found with
          | none => trivial
          | some u => trivial

/-- **Every request asks only what it may ask**, whatever the others do. -/
theorem abides_plan (r : Request) : r.Heeds r.plan [] := by
  cases r with
  | listGroups page =>
      exact heeds_look trivial rfl fun _ _ => heeds_look trivial rfl fun _ _ => trivial
  | createGroup c draft => exact heeds_create c draft
  | getGroup slug =>
      show Heeds _ (requireGroup slug) []
      rw [← Plan.bind_done (requireGroup slug)]
      exact heeds_requireGroup fun _ _ => trivial
  | updateGroup c slug patch => exact heeds_update c slug patch
  | deleteGroup c slug => exact heeds_delete c slug
  | listMembers slug =>
      refine heeds_requireGroup fun _ _ => ?_
      exact heeds_look trivial rfl fun _ _ => heeds_look trivial rfl fun _ _ => trivial
  | updateMembers c slug changes => exact heeds_updateMembers c slug changes
  | removeMember c slug userId => exact heeds_removeMember c slug userId
  | listNamespaces c page minimum => exact heeds_listNamespaces c page minimum
  | getNamespace slug => exact heeds_getNamespace slug
  | ensureUser c => exact abides_ensure (fun _ _ => entitled_ofUsers) (fun _ _ => trivial) c
  | getUser id =>
      refine heeds_look trivial rfl fun found past => ?_
      cases found with
      | none => trivial
      | some u => trivial
  | listUsers email =>
      show Heeds _ (call (.listUsers email)) []
      rw [← Plan.bind_done (call (.listUsers email))]
      exact heeds_look trivial rfl fun _ _ => trivial

/-- A change to a group that is there is made by a call that the request may make. -/
theorem mayChange_of_change {e : Inquiry} (he : e.Possible) (hs : e.before.Kept)
    (hq : r.Entitled past e.ask) (hgroup : e.before.groups.contains groupId)
    (hchange : e.after.atGroup groupId ≠ e.before.atGroup groupId) :
    Untouched past ∧ ∃ call, e.ask = .store call ∧ r.MayChange past groupId call := by
  cases he with
  | clock now s => exact absurd rfl hchange
  | freshId s _ => exact absurd rfl hchange
  | call c s =>
      have htarget : c.target? = some groupId := by
        refine Classical.not_not.mp fun hne => ?_
        exact hchange (Memory.answer_atGroup hs.rows hq.1 hgroup hne)
      obtain ⟨hpast, hright⟩ := hq.2 groupId htarget
      exact ⟨hpast, c, rfl, hright⟩

end Request

/-! ## Traffic at the desk -/

/-- **Traffic keeps the store**, and has asked nothing that it may not ask. -/
theorem Traffic.Reached.kept {t : Traffic desk} (ht : t.Reached) :
    t.store.Kept ∧ ∀ f ∈ t.flights, Heeded Kept f.request.Entitled f.past ∧
      f.request.Heeds f.rest f.past :=
  ht.abides (D := desk) Memory.kept_empty Request.keeps_entitled Request.abides_plan

/-- **Memberships are found by group and user**, in every store that traffic can reach: each
stands under a key made of the two, for a group that is there, and no user has two of them in one
group. -/
theorem memberships_found_by_group_and_user {t : Traffic desk} (ht : t.Reached) :
    (∀ k m, t.store.members.get? k = some m →
      m.id = k ∧ m.id = m.groupId ++ "_" ++ m.userId ∧
        ∃ g, t.store.groups.get? m.groupId = some g ∧ g.id = m.groupId) ∧
    (∀ k k' m m', t.store.members.get? k = some m → t.store.members.get? k' = some m' →
      m.groupId = m'.groupId → m.userId = m'.userId → k = k' ∧ m = m') ∧
    ∀ g, t.store.groups.contains g → ∀ u m,
      t.store.findMember g u = some m ↔
        (∃ k, t.store.members.get? k = some m) ∧ m.groupId = g ∧ m.userId = u := by
  obtain ⟨hslugs, hrows⟩ := ht.kept.1
  refine ⟨fun k m hm => ⟨hrows.keyed hm, hrows.id_eq hm, ?_⟩, fun k k' m m' => hrows.row_eq,
    fun g hg u m => hrows.findMember_eq_some_iff (hrows.shaped hg)⟩
  obtain ⟨g, hg⟩ := Table.contains_iff.mp (hrows.group hm)
  exact ⟨g, hg, hslugs.groups hg⟩

/-- A user whose id has underscores is found in the group it has made. -/
theorem membership_of_group_maker_found :
    let made := alone (Groups.create { id := some "a_b_" } ⟨"Lab", "lab", none⟩) {} .counting
    ∃ m, made.2.store.findMember (Ulid.text 0 0) "a_b_" = some m ∧
      m.groupId = Ulid.text 0 0 ∧ m.userId = "a_b_" := by
  intro made
  have hreached : (⟨made.2.store, _⟩ : Traffic desk).Reached :=
    Traffic.Reached.alone (D := desk) .refl
      (.createGroup { id := some "a_b_" } ⟨"Lab", "lab", none⟩) Supply.shaped_counting
  have hgroup : made.2.store.groups.contains (Ulid.text 0 0) := by rfl
  have hm : made.2.store.findMember (Ulid.text 0 0) "a_b_" =
      some (.new (Ulid.text 0 0) "a_b_" .owner 0) := by rfl
  exact ⟨_, hm, ((memberships_found_by_group_and_user hreached).2.2 _ hgroup _ _).mp hm |>.2⟩

/-- **A group changes only at the hands of an administrator or of a user with the role**, but for
users who remove themselves.  In traffic the role was held in this very group when the request
looked, whoever has the slug by then; of a request alone it is held at the start. -/
theorem groups_changed_with_role_only {t : Traffic desk} (ht : t.Reached) {groupId : String}
    (hgroup : t.store.groups.contains groupId) :
    (∀ t', t.Step t' → t'.store.atGroup groupId ≠ t.store.atGroup groupId →
      ∃ f ∈ t'.flights, ∃ e earlier call, f.past = e :: earlier ∧
        e.before = t.store ∧ e.after = t'.store ∧ e.ask = .store call ∧
        ∃ c u role, f.request.caller? = some c ∧ c.id = some u ∧
          f.request.requiredRole? = some role ∧
          (c.isAdmin ∨
            (∃ slug, f.request = .removeMember c slug u ∧ call = .deleteMember groupId u) ∨
            ∃ d ∈ earlier, ∃ held, d.before.HasRole u groupId held ∧ role ≤ held)) ∧
    ∀ (r : Request) (σ : Supply), σ.Shaped →
      (alone r.plan t.store σ).2.store.atGroup groupId ≠ t.store.atGroup groupId →
        ∃ c u role, r.caller? = some c ∧ c.id = some u ∧ r.requiredRole? = some role ∧
          (c.isAdmin ∨ (∃ slug, r = .removeMember c slug u) ∨
            ∃ held, t.store.HasRole u groupId held ∧ role ≤ held) := by
  obtain ⟨hkept, hflights⟩ := ht.kept
  refine ⟨fun t' hstep hchange => ?_, fun r σ hσ hchange => ?_⟩
  · cases hstep with
    | arrive s fs r => exact absurd rfl hchange
    | turn l r hturn =>
        cases hturn with
        | @answered q past e next he =>
            obtain ⟨-, hask⟩ := hflights ⟨q, past, .ask e.ask next⟩ (by simp)
            obtain ⟨-, call, hcall, hmay⟩ :=
              Request.mayChange_of_change he hkept hask.1 hgroup hchange
            exact ⟨⟨q, e :: past, next e.answer⟩, by simp, e, past, call, rfl, rfl, rfl, hcall,
              hmay⟩
  · obtain ⟨-, hheeded, -⟩ :=
      Abides.alone (Request.keeps_entitled r) hσ hkept (Request.abides_plan r)
    obtain ⟨later, e, earlier, hlog, hchained, hview, hne⟩ :=
      (chained_alone r.plan t.store σ).first_change (Memory.atGroup · groupId) (Ne.symm hchange)
    rw [hlog] at hheeded
    obtain ⟨hs, he, hq, -⟩ := hheeded.split
    have hthere : e.before.groups.contains groupId := by
      rw [Table.contains, ← show t.store.groups.get? groupId = e.before.groups.get? groupId from
        congrArg Prod.fst hview]
      exact hgroup
    obtain ⟨hpast, call, -, c, u, role, hc, hu, hrole, hright⟩ :=
      Request.mayChange_of_change he hs hq hthere (Ne.symm hne)
    -- The request has only looked so far, and it looked at the store from which it set out.
    have hbefore : ∀ d ∈ earlier, d.before = t.store := (hchained.before_eq hpast).2
    refine ⟨c, u, role, hc, hu, hrole, ?_⟩
    rcases hright with hadmin | ⟨slug, hremove, -⟩ | ⟨d, hd, hheld⟩
    · exact .inl hadmin
    · exact .inr (.inl ⟨slug, hremove⟩)
    · exact .inr (.inr (hbefore d hd ▸ hheld))

/-- The maker of a group deletes it, and must have been its owner for that. -/
theorem group_deleted_by_owner :
    let ada : Caller := { id := some "ada" }
    let made := alone (Groups.create ada ⟨"Lab", "lab", none⟩) {} .counting
    let gone := alone (Groups.delete ada "lab") made.2.store .counting
    made.2.store.groups.contains (Ulid.text 0 0) ∧ ¬ gone.2.store.groups.contains (Ulid.text 0 0) ∧
      made.2.store.HasRole "ada" (Ulid.text 0 0) .owner := by
  intro ada made gone
  have hreached : (⟨made.2.store, _⟩ : Traffic desk).Reached :=
    Traffic.Reached.alone (D := desk) .refl (.createGroup ada ⟨"Lab", "lab", none⟩)
      Supply.shaped_counting
  have hgroup : made.2.store.groups.contains (Ulid.text 0 0) := by rfl
  have hgone : gone.2.store.groups.contains (Ulid.text 0 0) = false := by rfl
  have hchange : gone.2.store.atGroup (Ulid.text 0 0) ≠ made.2.store.atGroup (Ulid.text 0 0) := by
    intro h
    have hget : gone.2.store.groups.get? (Ulid.text 0 0) =
        made.2.store.groups.get? (Ulid.text 0 0) := congrArg Prod.fst h
    rw [Table.contains, hget] at hgone
    exact Bool.noConfusion (hgroup.symm.trans hgone)
  obtain ⟨c, u, role, hc, hu, hrole, hright⟩ := (groups_changed_with_role_only hreached hgroup).2
    (.deleteGroup ada "lab") .counting Supply.shaped_counting hchange
  cases hc
  cases hu
  cases hrole
  rcases hright with hadmin | ⟨slug, hremove⟩ | ⟨held, hheld, hle⟩
  · cases hadmin
  · cases hremove
  · cases held with
    | owner => exact ⟨hgroup, by simp [hgone], hheld⟩
    | viewer | editor => exact absurd hle (by decide)

end Roster.Service
