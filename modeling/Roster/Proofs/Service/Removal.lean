/-
# Taking away twice

A group is deleted, a member is removed, and the same request comes once more.  It may find
that the very thing is gone which gave it the right the first time: the group, or the
membership of a caller who has removed itself.  Yet it is answered as before and changes
nothing.

A deletion that has happened leaves no group, and where there is no group nobody is asked
for a role.  A removal goes past the demand for a role if the caller removes itself, and
otherwise the caller's own membership is another one than the one that went, so the demand
is met again (`findMember_deleteMember`).  Every other outcome leaves the store as it is.
-/
import Roster.Proofs.Service.Members
import Roster.Proofs.Store.Groups

namespace Roster

namespace Store.Memory

variable {s s' : Memory} {g : Group} {k slug userId : String}

/-- What is left when the group with a slug is gone: the other groups, the memberships that were not
in it, all entries but that of the group, and all users. -/
structure WithoutGroup (s : Memory) (slug : String) (s' : Memory) : Prop where
  groups : ∀ k g, s'.groups.get? k = some g ↔ s.groups.get? k = some g ∧ g.slug ≠ slug
  members : ∀ k m, s'.members.get? k = some m ↔
    s.members.get? k = some m ∧ ∀ g, s.Has (.group g) → g.slug = slug → m.groupId ≠ g.id
  namespaces : ∀ k n, s'.namespaces.get? k = some n ↔
    s.namespaces.get? k = some n ∧ (n.kind = .group → k ≠ slug)
  users : s'.users = s.users

/-- What is left when a user is no member of a group any more: all but one membership. -/
structure WithoutMember (s : Memory) (groupId userId : String) (s' : Memory) : Prop where
  members : ∀ k m, s'.members.get? k = some m ↔
    s.members.get? k = some m ∧ ¬ (m.groupId = groupId ∧ m.userId = userId)
  groups : s'.groups = s.groups
  namespaces : s'.namespaces = s.namespaces
  users : s'.users = s.users

/-- A store in which no group has the slug is one without that group. -/
theorem withoutGroup_self (hs : s.SlugsKept) (hnone : ∀ g, s.Has (.group g) → g.slug ≠ slug) :
    s.WithoutGroup slug s where
  groups k g := ⟨fun hg => ⟨hg, hnone g (hs.groups.get? hg)⟩, And.left⟩
  members k m := ⟨fun hm => ⟨hm, fun g hg hslug => absurd hslug (hnone g hg)⟩, And.left⟩
  namespaces k n := by
    refine ⟨fun hn => ⟨hn, fun hkind hk => ?_⟩, And.left⟩
    obtain ⟨p, hp, hslug, rfl⟩ := hs.party_of_entry hn
    cases p with
    | group g => exact hnone g hp (hslug.trans hk)
    | user u => cases hkind
  users := rfl

/-- Deleting the group with a slug leaves the store without it. -/
theorem withoutGroup_deleteGroup (hs : s.SlugsKept) (hg : s.Has (.group g)) :
    s.WithoutGroup g.slug (s.deleteGroup g.id).2 := by
  have hget : s.groups.get? g.id = some g := hg
  -- There is one group with the slug, so another group differs from it in the slug and in the id.
  have hone : ∀ {g'}, s.Has (.group g') → g'.slug = g.slug → g' = g := fun hg' hslug =>
    Party.group.inj (hs.party_eq hg' hg hslug)
  rw [deleteGroup, hget]
  refine ⟨fun k g' => ?_, fun k m => ?_, fun k n => ?_, rfl⟩
  · rw [Table.get?_erase_eq_some_iff, and_comm]
    refine and_congr_right fun hg' => not_congr ?_
    constructor
    · rintro rfl
      exact congrArg Group.slug (Option.some.inj (hg'.symm.trans hget))
    · intro hslug
      rw [← hs.groups hg', hone (hs.groups.get? hg') hslug]
  · rw [Table.get?_filter, Option.filter_eq_some_iff, decide_eq_true_iff]
    refine and_congr_right fun _ => ⟨fun hne g' hg' hslug => ?_, fun h => h g hg rfl⟩
    rwa [hone hg' hslug]
  · rw [Table.get?_erase_eq_some_iff, and_comm]
    refine and_congr_right fun hn => ⟨fun hk _ => hk, fun h hk => ?_⟩
    have hentry : s.namespaces.get? g.slug = some g.namespace := hs.entry_of_party hg
    subst hk
    cases hn.symm.trans hentry
    exact h rfl rfl

/-- Removing a member leaves the store without it. -/
theorem withoutMember_deleteMember (hs : s.RowsKept) (hg : s.groups.contains g.id) :
    s.WithoutMember g.id userId (s.deleteMember g.id userId).2 := by
  refine ⟨fun k m => ?_, rfl, rfl, rfl⟩
  rw [deleteMember, Table.get?_erase_eq_some_iff, and_comm]
  refine and_congr_right fun hm => not_congr ⟨?_, ?_⟩
  · rintro rfl
    exact hs.of_findMember (hs.shaped hg) hm
  · rintro ⟨hgroup, huser⟩
    rw [← hs.keyed hm, hs.id_eq hm, hgroup, huser]

/-- A member that is removed takes nobody else's membership with it. -/
theorem findMember_deleteMember {id : String} (hid : id ≠ userId) :
    (s.deleteMember g.id userId).2.findMember g.id id = s.findMember g.id id :=
  (Table.get?_erase ..).trans (if_neg (mt Member.idOf_user_inj.mp hid))

/-- Removing a member twice is removing it once. -/
theorem deleteMember_deleteMember (s : Memory) (groupId userId : String) :
    ((s.deleteMember groupId userId).2.deleteMember groupId userId).2 =
      (s.deleteMember groupId userId).2 := by
  refine congrArg (fun t => { s with members := t }) ?_
  ext1 k
  rw [Table.get?_erase]
  split
  · next hk => rw [hk, Table.get?_erase_self]
  · rfl

end Store.Memory

namespace Service

open Store (Memory)
open Store.Memory (SlugsKept Kept WithoutGroup WithoutMember)

variable {s : Memory} {c : Caller} {g : Group} {id slug userId : String}

/-- The caller may do what the owners of the group may do. -/
def ActsAsOwner (s : Memory) (c : Caller) (id : String) (g : Group) : Prop :=
  c.isAdmin ∨ ∃ m, s.findMember g.id id = some m ∧ Role.owner ≤ m.role

/-! ## Deleting a group -/

theorem leads_delete_anonymous (hid : c.id = none) (s : Memory) :
    Leads (Groups.delete c slug) s (.error .loginRequired) s := by
  intro σ
  unfold alone Groups.delete
  rw [requireLogin, hid]
  exact ⟨_, rfl, rfl⟩

theorem leads_delete_of_none (hid : c.id = some id) (hnone : s.findGroup slug = none) :
    Leads (Groups.delete c slug) s (.ok ()) s := by
  intro σ
  unfold alone Groups.delete
  rw [requireLogin, hid, Plan.done_bind, run_call]
  simp only [Memory.answer, hnone]
  exact ⟨_, rfl, rfl⟩

theorem leads_delete (hid : c.id = some id) (hg : s.findGroup slug = some g)
    (hright : ActsAsOwner s c id g) :
    Leads (Groups.delete c slug) s (.ok ()) (s.deleteGroup g.id).2 := by
  intro σ
  obtain ⟨w, hstore, -, hrun⟩ := run_requireRole (β := Unit)
    (w := World.after (.findGroup slug) ⟨s, σ, []⟩) hid hright
  have hsame : w.store = s := hstore
  unfold alone Groups.delete
  rw [requireLogin, hid, Plan.done_bind, run_call]
  simp only [Memory.answer, hg]
  rw [hrun, run_call]
  refine ⟨w.after (.deleteGroup g.id), rfl, ?_⟩
  rw [World.after_store, hsame]
  rfl

theorem leads_delete_of_not (hid : c.id = some id) (hg : s.findGroup slug = some g)
    (hno : ¬ ActsAsOwner s c id g) :
    Leads (Groups.delete c slug) s (.error (.roleRequired .owner g.slug)) s := by
  intro σ
  obtain ⟨w, hstore, -, hrun⟩ := run_requireRole_of_not (β := Unit)
    (w := World.after (.findGroup slug) ⟨s, σ, []⟩) hid hno
  unfold alone Groups.delete
  rw [requireLogin, hid, Plan.done_bind, run_call]
  simp only [Memory.answer, hg]
  exact ⟨w, hrun _, hstore⟩

/-! ## Removing a member -/

theorem leads_remove_anonymous (hid : c.id = none) (s : Memory) :
    Leads (Members.remove c slug userId) s (.error .loginRequired) s := by
  intro σ
  unfold alone Members.remove
  rw [requireLogin, hid]
  exact ⟨_, rfl, rfl⟩

theorem leads_remove_of_none (hid : c.id = some id) (hnone : s.findGroup slug = none) :
    Leads (Members.remove c slug userId) s (.error (.groupUnknown slug)) s := by
  intro σ
  unfold alone Members.remove
  rw [requireLogin, hid, Plan.done_bind, requireGroup, Plan.bind_assoc, run_call]
  simp only [Memory.answer, hnone]
  exact ⟨_, rfl, rfl⟩

/-- A caller that removes itself is asked for no role. -/
theorem leads_remove (hid : c.id = some id) (hg : s.findGroup slug = some g)
    (hright : id = userId ∨ ActsAsOwner s c id g) :
    Leads (Members.remove c slug userId) s (.ok ()) (s.deleteMember g.id userId).2 := by
  intro σ
  unfold alone Members.remove
  rw [requireLogin, hid, Plan.done_bind, run_requireGroup hg]
  by_cases hown : id = userId
  · rw [if_neg (not_not_intro hown), run_call]
    exact ⟨_, rfl, rfl⟩
  · obtain ⟨w, hstore, -, hrun⟩ := run_requireRole (β := Unit)
      (w := World.after (.findGroup slug) ⟨s, σ, []⟩) hid (hright.resolve_left hown)
    have hsame : w.store = s := hstore
    rw [if_pos hown, hrun, run_call]
    refine ⟨w.after (.deleteMember g.id userId), rfl, ?_⟩
    rw [World.after_store, hsame]
    rfl

theorem leads_remove_of_not (hid : c.id = some id) (hg : s.findGroup slug = some g)
    (hother : id ≠ userId) (hno : ¬ ActsAsOwner s c id g) :
    Leads (Members.remove c slug userId) s (.error (.roleRequired .owner g.slug)) s := by
  intro σ
  obtain ⟨w, hstore, -, hrun⟩ := run_requireRole_of_not (β := Unit)
    (w := World.after (.findGroup slug) ⟨s, σ, []⟩) hid hno
  unfold alone Members.remove
  rw [requireLogin, hid, Plan.done_bind, run_requireGroup hg, if_pos hother]
  exact ⟨w, hrun _, hstore⟩

/-! ## Both requests -/

/-- The request has the same outcome the first time and the second time, and the second time it
changes nothing; if it fails, it has changed nothing the first time either. -/
def Repeats (p : Service Unit) (s : Memory) (o : Except Fault Unit) (s' : Memory) : Prop :=
  Leads p s o s' ∧ Leads p s' o s' ∧ ∀ f, o = .error f → s' = s

theorem Leads.repeats {p : Service Unit} {o : Except Fault Unit} (h : Leads p s o s) :
    Repeats p s o s := ⟨h, h, fun _ _ => rfl⟩

/-- The deletion of a group repeats, with the same right or none: without a group there is nobody
who could be refused. -/
theorem repeats_delete (hs : s.SlugsKept) (c : Caller) (slug : String) :
    ∃ o s', Repeats (Groups.delete c slug) s o s' ∧ (o = .ok () → s.WithoutGroup slug s') ∧
      (o = .ok () ↔ ∃ id, c.id = some id ∧
        ∀ g, s.Has (.group g) → g.slug = slug → ActsAsOwner s c id g) := by
  have hfind := @SlugsKept.findGroup_eq_some_iff s
  cases hid : c.id with
  | none =>
      refine ⟨_, s, (leads_delete_anonymous hid s).repeats, nofun, nofun, ?_⟩
      rintro ⟨id, hsome, -⟩
      cases hsome
  | some id =>
      cases hfound : s.findGroup slug with
      | none =>
          have hnone : ∀ g, s.Has (.group g) → g.slug ≠ slug := fun g hg hslug => by
            rw [(hfind hs).mpr ⟨hg, hslug⟩] at hfound
            cases hfound
          exact ⟨_, s, (leads_delete_of_none hid hfound).repeats,
            fun _ => Memory.withoutGroup_self hs hnone,
            fun _ => ⟨id, rfl, fun g hg hslug => absurd hslug (hnone g hg)⟩, fun _ => rfl⟩
      | some g =>
          obtain ⟨hg, rfl⟩ := (hfind hs).mp hfound
          by_cases hright : ActsAsOwner s c id g
          · have hkept : (s.deleteGroup g.id).2.SlugsKept :=
              Memory.answer_slugsKept (.deleteGroup g.id) hs
            have hgone : (s.deleteGroup g.id).2.findGroup g.slug = none :=
              hkept.findGroup_eq_none (Memory.namespaces_deleteGroup hg)
            refine ⟨_, _, ⟨leads_delete hid hfound hright, leads_delete_of_none hid hgone, nofun⟩,
              fun _ => Memory.withoutGroup_deleteGroup hs hg, fun _ => ⟨id, rfl, ?_⟩, fun _ => rfl⟩
            intro g' hg' hslug
            cases hs.party_eq hg' hg hslug
            exact hright
          · refine ⟨_, s, (leads_delete_of_not hid hfound hright).repeats, nofun, nofun, ?_⟩
            rintro ⟨id, ⟨⟩, hall⟩
            exact absurd (hall g hg rfl) hright

/-- The removal of a member repeats: whoever has removed itself may do so again, and whoever has
removed another is what it was. -/
theorem repeats_remove (hs : s.Kept) (c : Caller) (slug userId : String) :
    ∃ o s', Repeats (Members.remove c slug userId) s o s' ∧
      (o = .ok () → ∃ g, s.Has (.group g) ∧ g.slug = slug ∧ s.WithoutMember g.id userId s') ∧
      (o = .ok () ↔ ∃ id g, c.id = some id ∧ s.Has (.group g) ∧ g.slug = slug ∧
        (id = userId ∨ ActsAsOwner s c id g)) := by
  have hfind := @SlugsKept.findGroup_eq_some_iff s
  cases hid : c.id with
  | none =>
      refine ⟨_, s, (leads_remove_anonymous hid s).repeats, nofun, nofun, ?_⟩
      rintro ⟨id, g, hsome, -⟩
      cases hsome
  | some id =>
      cases hfound : s.findGroup slug with
      | none =>
          refine ⟨_, s, (leads_remove_of_none hid hfound).repeats, nofun, nofun, ?_⟩
          rintro ⟨id, g, -, hg, hslug, -⟩
          rw [(hfind hs.slugs).mpr ⟨hg, hslug⟩] at hfound
          cases hfound
      | some g =>
          obtain ⟨hg, rfl⟩ := (hfind hs.slugs).mp hfound
          by_cases hright : id = userId ∨ ActsAsOwner s c id g
          · have hagain : id = userId ∨ ActsAsOwner (s.deleteMember g.id userId).2 c id g := by
              refine or_iff_not_imp_left.mpr fun hother => ?_
              have hrow := Memory.findMember_deleteMember (s := s) (g := g) hother
              rw [ActsAsOwner, hrow]
              exact hright.resolve_left hother
            have hsecond := leads_remove hid (s := (s.deleteMember g.id userId).2) hfound hagain
            rw [Memory.deleteMember_deleteMember] at hsecond
            have hgroup : s.groups.contains g.id := Table.contains_iff.mpr ⟨g, hg⟩
            exact ⟨_, _, ⟨leads_remove hid hfound hright, hsecond, nofun⟩,
              fun _ => ⟨g, hg, rfl, Memory.withoutMember_deleteMember hs.rows hgroup⟩,
              fun _ => ⟨id, g, rfl, hg, rfl, hright⟩, fun _ => rfl⟩
          · obtain ⟨hother, hno⟩ := not_or.mp hright
            refine ⟨_, s, (leads_remove_of_not hid hfound hother hno).repeats, nofun, nofun, ?_⟩
            rintro ⟨id, g', ⟨⟩, hg', hslug, hmay⟩
            cases hs.slugs.party_eq hg' hg hslug
            exact absurd hmay hright

/-- **Taking away twice is taking away once**, in any store that traffic can reach, for any caller.
The deletion of a group and the removal of a member are answered the second time as the first time,
be it with success or with a failure, and the second time nothing changes; that holds also if the
first time took away the group or the membership that gave the right.  After a success the group is
gone, or the user is no member of the group, and nothing else is. -/
theorem taken_away_once {t : Traffic desk} (ht : t.Reached) (c : Caller) (slug userId : String) :
    (∃ o s', Repeats (Groups.delete c slug) t.store o s' ∧
      (o = .ok () → t.store.WithoutGroup slug s') ∧
      (o = .ok () ↔ ∃ id, c.id = some id ∧
        ∀ g, t.store.Has (.group g) → g.slug = slug → ActsAsOwner t.store c id g)) ∧
    ∃ o s', Repeats (Members.remove c slug userId) t.store o s' ∧
      (o = .ok () →
        ∃ g, t.store.Has (.group g) ∧ g.slug = slug ∧ t.store.WithoutMember g.id userId s') ∧
      (o = .ok () ↔ ∃ id g, c.id = some id ∧ t.store.Has (.group g) ∧ g.slug = slug ∧
        (id = userId ∨ ActsAsOwner t.store c id g)) :=
  ⟨repeats_delete ht.kept.1.slugs c slug, repeats_remove ht.kept.1 c slug userId⟩

/-- The only owner of a group leaves it, and leaves it once more without a role in it. -/
theorem only_owner_leaves_twice :
    let ada : Caller := { id := some "ada" }
    let lab := (alone (Groups.create ada ⟨"Lab", "lab", none⟩) {} .counting).2
    lab.store.HasRole "ada" (Ulid.text 0 0) .owner ∧
      ∃ s', Repeats (Members.remove ada "lab" "ada") lab.store (.ok ()) s' ∧
        ∀ role, ¬ s'.HasRole "ada" (Ulid.text 0 0) role := by
  intro ada lab
  have hreached : (⟨lab.store, _⟩ : Traffic desk).Reached :=
    Traffic.Reached.alone (D := desk) .refl (.createGroup ada ⟨"Lab", "lab", none⟩)
      Supply.shaped_counting
  have hgroup : lab.store.Has (.group ⟨Ulid.text 0 0, "Lab", "lab", none, "ada", 0, 0⟩) := by rfl
  have howner : lab.store.HasRole "ada" (Ulid.text 0 0) .owner :=
    ⟨Member.idOf (Ulid.text 0 0) "ada", .new (Ulid.text 0 0) "ada" .owner 0, by rfl, rfl, rfl, rfl⟩
  obtain ⟨-, o, s', hrepeats, hgone, hmay⟩ := taken_away_once hreached ada "lab" "ada"
  obtain rfl : o = .ok () := hmay.mpr ⟨"ada", _, rfl, hgroup, rfl, .inl rfl⟩
  refine ⟨howner, s', hrepeats, ?_⟩
  rintro role ⟨k, m, hm, hmgroup, hmuser, -⟩
  obtain ⟨g, hg, hslug, hwithout⟩ := hgone rfl
  cases hreached.kept.1.slugs.party_eq hg hgroup hslug
  exact ((hwithout.members k m).mp hm).2 ⟨hmgroup, hmuser⟩

end Service

end Roster
