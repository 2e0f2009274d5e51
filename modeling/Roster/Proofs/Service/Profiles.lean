/-
# Members with their profiles

The members of a group are listed together with what is known of them as users.  The store is
asked for all these users at once, and each profile that is found is given to one member and is
then gone.  That is right because no user is in a group twice: what was given away before was
meant for another member (`attach_eq_map`).

So each member has the profile that stands under its user id, in whatever order the profiles
were found and however often each of them was (`find?_profile`).
-/
import Roster.Proofs.Service.Writing
import Roster.Proofs.Store.Orders

namespace Roster

namespace Member

/-- Among members who are different users, each gets the profile that it would get if it were the
first. -/
theorem attach_eq_map {members : List Member} (h : (members.map (·.userId)).Nodup)
    (users : List User) :
    attach members users = members.map fun m => ⟨m, users.find? (·.id == m.userId)⟩ := by
  induction members generalizing users with
  | nil => rfl
  | cons m rest ih =>
      obtain ⟨hnew, hrest⟩ := List.nodup_cons.mp h
      rw [attach, ih hrest, List.map_cons]
      refine congrArg (List.cons _) (List.map_congr_left fun n hn => ?_)
      -- The profile that is gone is that of another user.
      have hother : n.userId ≠ m.userId := fun he => hnew (List.mem_map.mpr ⟨n, hn, he⟩)
      rw [List.find?_filter]
      refine congrArg (fun p => View.mk n (users.find? p)) (funext fun u => ?_)
      by_cases hu : u.id = n.userId
      · simp [hu, hother]
      · simp [hu]

end Member

/-- What is found for some ids holds under each of them what the table does, whatever its order. -/
theorem Table.Keyed.find?_profile {known : Table User} (hknown : known.Keyed User.id)
    {ids : List String} {found : List User}
    (hfound : ∀ u, u ∈ found ↔ u ∈ ids.filterMap known.get?) {id : String} (hid : id ∈ ids) :
    found.find? (·.id == id) = known.get? id := by
  -- A profile of the user that is found is the one in the table.
  have hthe : ∀ u ∈ found, u.id = id → known.get? id = some u := by
    rintro u hu rfl
    obtain ⟨k, -, hk⟩ := List.mem_filterMap.mp ((hfound u).mp hu)
    exact hknown.get? hk
  cases hget : known.get? id with
  | none =>
      refine List.find?_eq_none.mpr fun u hu hkey => ?_
      cases hget.symm.trans (hthe u hu (beq_iff_eq.mp hkey))
  | some u =>
      have hu : u ∈ found := (hfound u).mpr (List.mem_filterMap.mpr ⟨id, hid, hget⟩)
      cases hfirst : found.find? (·.id == id) with
      | none => exact absurd (beq_iff_eq.mpr (hknown hget)) (List.find?_eq_none.mp hfirst u hu)
      | some v =>
          have hkey : v.id = id := by simpa using List.find?_some hfirst
          exact (hthe v (List.mem_of_find?_eq_some hfirst) hkey).symm.trans hget

namespace Store.Memory

variable {s : Memory}

/-- The members of a group with what is known of them as users. -/
def memberViews (s : Memory) (groupId : String) : List Member.View :=
  (s.listMembers groupId).map fun m => ⟨m, s.users.get? m.userId⟩

theorem nodup_userId_listMembers (hs : s.RowsKept) (groupId : String) :
    ((s.listMembers groupId).map (·.userId)).Nodup :=
  List.pairwise_map.mpr <|
    (sortOn_perm memberKey _).symm.pairwise hs.pairwise_userId_ne fun hne => hne.symm

/-- **Whatever the order in which the users are found**, each member gets its own profile. -/
theorem Kept.attach_eq_memberViews (hs : s.Kept) {groupId : String} {found : List User}
    (hfound : ∀ u, u ∈ found ↔ u ∈ s.findUsers ((s.listMembers groupId).map (·.userId))) :
    Member.attach (s.listMembers groupId) found = s.memberViews groupId := by
  rw [Member.attach_eq_map (nodup_userId_listMembers hs.rows groupId), memberViews]
  refine List.map_congr_left fun m hm => congrArg (Member.View.mk m) ?_
  exact hs.slugs.users.find?_profile hfound (List.mem_map_of_mem hm)

end Store.Memory

namespace Service

open Store (Call Memory)

variable {ω : Type} {answer : (q : Ask) → ω → q.Answer × ω} {I : ω → Prop} {s : Memory} {w : ω}

/-- In certain states, which looking does not leave, lookups are answered from the store; only the
order in which users are found is free. -/
def Shows (s : Memory) (answer : (q : Ask) → ω → q.Answer × ω) (I : ω → Prop) : Prop :=
  ∀ (c : Call) (w : ω), c.Looks → I w →
    c.Agree (answer (.store c) w).1 (Memory.answer c s).1 ∧ I (answer (.store c) w).2

/-- The store in memory is one that shows itself. -/
theorem shows_world (s : Memory) : Shows s World.answer (·.store = s) := by
  rintro c w hc rfl
  refine ⟨?_, hc.same w.store⟩
  show c.Agree (Memory.answer c w.store).1 (Memory.answer c w.store).1
  cases c with
  | findUsers ids => exact fun u => Iff.rfl
  | _ => rfl

/-- A lookup that is no search for several users is answered as the store answers it. -/
theorem Shows.run_call (h : Shows s answer I) (hw : I w) {c : Call} {a : c.Answer} (hc : c.Looks)
    (hids : ∀ ids, c ≠ .findUsers ids) (ha : (Memory.answer c s).1 = .ok a)
    {α : Type} (k : c.Answer → Service α) :
    ∃ w', (call c >>= k).run answer w = (k a).run answer w' ∧ I w' := by
  obtain ⟨hagree, hw'⟩ := h c w hc hw
  have hsame : (answer (.store c) w).1 = .ok a := by
    rw [← ha]
    cases c with
    | findUsers ids => exact absurd rfl (hids ids)
    | _ => exact hagree
  exact ⟨_, by rw [run_call_by, hsame], hw'⟩

theorem Shows.run_requireGroup (h : Shows s answer I) (hw : I w) {slug : String} {g : Group}
    (hg : s.findGroup slug = some g) {α : Type} (k : Group → Service α) :
    ∃ w', (requireGroup slug >>= k).run answer w = (k g).run answer w' ∧ I w' := by
  rw [requireGroup, Plan.bind_assoc]
  obtain ⟨w', hrun, hw'⟩ := h.run_call hw (c := .findGroup slug) trivial (by rintro ids ⟨⟩) rfl _
  rw [hrun, hg]
  exact ⟨w', rfl, hw'⟩

/-- The members of a group are answered with their profiles, and nothing else happens. -/
theorem run_listMembers (hs : s.Kept) {slug : String} {g : Group} (hg : s.findGroup slug = some g)
    (h : Shows s answer I) (hw : I w) :
    ∃ w', (Members.list slug).run answer w = (.ok (s.memberViews g.id), w') ∧ I w' := by
  let ids := (s.listMembers g.id).map (·.userId)
  unfold Members.list
  obtain ⟨w₁, hrun, hw₁⟩ := h.run_requireGroup hw hg _
  rw [hrun]
  obtain ⟨w₂, hrun, hw₂⟩ := h.run_call hw₁ (c := .listMembers g.id) trivial (by rintro ids ⟨⟩) rfl _
  rw [hrun, run_call_by]
  obtain ⟨hagree, hw₃⟩ := h (.findUsers ids) w₂ trivial hw₂
  cases hanswer : (answer (.store (.findUsers ids)) w₂).1 with
  | error f =>
      rw [hanswer] at hagree
      cases hagree
  | ok found =>
      rw [hanswer] at hagree
      have hviews := hs.attach_eq_memberViews hagree
      exact ⟨_, congrArg (fun views => (Except.ok views, _)) hviews, hw₃⟩

/-- **The members of a group are listed with their profiles**, in any store that traffic can reach.
Each membership of the group is there once, in strictly ascending order of creation time and user
id, with the record of its user as it is stored, or with none if there is no such record; and the
store stays as it is.  The answer is the same if the users are found in another order. -/
theorem members_listed_with_profiles {t : Traffic desk} (ht : t.Reached) {g : Group}
    (hg : t.store.Has (.group g)) :
    ∃ views : List Member.View,
      Leads (Members.list g.slug) t.store (.ok views) t.store ∧
      (views.Pairwise fun a b => a.member.createTime < b.member.createTime ∨
        a.member.createTime = b.member.createTime ∧ a.member.userId < b.member.userId) ∧
      (∀ m, m ∈ views.map (·.member) ↔
        (∃ k, t.store.members.get? k = some m) ∧ m.groupId = g.id) ∧
      (∀ v ∈ views, v.user = t.store.users.get? v.member.userId) ∧
      ∀ {ω : Type} (answer : (q : Ask) → ω → q.Answer × ω),
        (∀ (c : Call) (w : ω), c.Looks →
          c.Agree (answer (.store c) w).1 (Memory.answer c t.store).1) →
        ∀ w, ((Members.list g.slug).run answer w).1 = .ok views := by
  obtain ⟨hslugs, hrows⟩ := ht.kept.1
  have hfound : t.store.findGroup g.slug = some g := hslugs.findGroup_eq_some_iff.mpr ⟨hg, rfl⟩
  refine ⟨t.store.memberViews g.id, fun σ => ?_, ?_, fun m => ?_, fun v hv => ?_,
    fun answer hanswer w => ?_⟩
  · exact run_listMembers ht.kept.1 hfound (shows_world t.store) (w := ⟨t.store, σ, []⟩) rfl
  · exact List.pairwise_map.mpr (hrows.pairwise_listMembers g.id)
  · rw [Memory.memberViews, List.map_map, ← Store.Memory.mem_listMembers]
    exact iff_of_eq (congrArg (m ∈ ·) (List.map_id _))
  · obtain ⟨m, -, rfl⟩ := List.mem_map.mp hv
    rfl
  · obtain ⟨w', hrun, -⟩ := run_listMembers (I := fun _ => True) ht.kept.1 hfound
      (fun c w hc _ => ⟨hanswer c w hc, trivial⟩) (w := w) trivial
    rw [hrun]

/-- Answers from a store that stays as it is, with the users that are found in reverse. -/
def reversed (s : Memory) : (q : Ask) → Unit → q.Answer × Unit
  | .store (.findUsers ids), w => (.ok (s.findUsers ids).reverse, w)
  | .store c, w => ((Memory.answer c s).1, w)
  | .clock, w => (0, w)
  | .freshId, w => ("", w)

theorem agree_reversed (s : Memory) (c : Call) (w : Unit) :
    c.Agree (reversed s (.store c) w).1 (Memory.answer c s).1 := by
  cases c with
  | findUsers ids => exact fun u => List.mem_reverse
  | _ => rfl

/-- The world after a user has made a group and added another, who is not known. -/
def labOfTwo : World :=
  let ada : Caller := { id := some "ada" }
  let known := (alone (Users.ensure ada) default .counting).2
  let lab := (alone (Groups.create ada ⟨"Lab", "lab", none⟩) known.store known.supply).2
  (alone (Members.update ada "lab" [⟨"bob", .viewer⟩]) lab.store lab.supply).2

theorem reached_labOfTwo : labOfTwo.Reached desk :=
  let ada : Caller := { id := some "ada" }
  (World.reached_counting desk).alone (.ensureUser ada)
    |>.alone (.createGroup ada ⟨"Lab", "lab", none⟩)
    |>.alone (.updateMembers ada "lab" [⟨"bob", .viewer⟩])

/-- A member of whom nothing is known is listed beside one who has been there, in whatever order
the users are found. -/
theorem members_known_and_unknown :
    labOfTwo.store.Has (.group ⟨Ulid.text 1 0, "Lab", "lab", none, "ada", 1, 1⟩) ∧
      ∃ views, Leads (Members.list "lab") labOfTwo.store (.ok views) labOfTwo.store ∧
        ((Members.list "lab").run (reversed labOfTwo.store) ()).1 = .ok views ∧
        (∃ v ∈ views, v.member.userId = "ada" ∧ v.user.isSome) ∧
        ∃ v ∈ views, v.member.userId = "bob" ∧ v.user = none := by
  obtain ⟨-, fs, hreached⟩ := reached_labOfTwo
  have hgroup : labOfTwo.store.Has (.group ⟨Ulid.text 1 0, "Lab", "lab", none, "ada", 1, 1⟩) := by
    show labOfTwo.store.groups.get? (Ulid.text 1 0) = _
    decide +kernel
  obtain ⟨views, hlist, -, hmem, huser, hanyOrder⟩ := members_listed_with_profiles hreached hgroup
  have hlisted : ∀ {u m}, labOfTwo.store.findMember (Ulid.text 1 0) u = some m →
      ∃ v ∈ views, v.member.userId = u ∧ v.user = labOfTwo.store.users.get? u := by
    intro u m hm
    obtain ⟨hmgroup, hmuser⟩ := hreached.kept.1.rows.of_findMember (Ulid.shaped_text 1 0) hm
    obtain ⟨v, hv, rfl⟩ := List.mem_map.mp ((hmem m).mpr ⟨⟨_, hm⟩, hmgroup⟩)
    exact ⟨v, hv, hmuser, hmuser ▸ huser v hv⟩
  refine ⟨hgroup, views, hlist,
    hanyOrder (reversed labOfTwo.store) (fun c w _ => agree_reversed _ c w) (), ?_, ?_⟩
  · have hrow : labOfTwo.store.findMember (Ulid.text 1 0) "ada" =
        some (.new (Ulid.text 1 0) "ada" .owner 1) := by decide +kernel
    obtain ⟨v, hv, hvuser, hprofile⟩ := hlisted hrow
    exact ⟨v, hv, hvuser, hprofile ▸ by decide +kernel⟩
  · have hrow : labOfTwo.store.findMember (Ulid.text 1 0) "bob" =
        some (.new (Ulid.text 1 0) "bob" .viewer 2) := by decide +kernel
    have hunknown : labOfTwo.store.users.get? "bob" = none := by decide +kernel
    obtain ⟨v, hv, hvuser, hprofile⟩ := hlisted hrow
    exact ⟨v, hv, hvuser, hprofile.trans hunknown⟩

end Service

end Roster
