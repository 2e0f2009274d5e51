/-
# Memberships and their keys

A membership stands under a key made of the ids of its group and its user, joined by
an underscore.  User ids are arbitrary texts, so the key can be read back only because
the ids of groups have a fixed form (`idOf_inj`): 26 characters, and then the joint.

`RowsKept` says that every membership stands under that key and belongs to a group of
the store.  Unlike `SlugsKept` it does not survive arbitrary calls, only `Proper` ones:
those whose memberships are made for the group that they are added to.  With such keys
the calls do not get into each other's way either: one that is meant for a group leaves
all other groups as they are (`answer_atGroup`).
-/
import Roster.Proofs.Store.Slugs

namespace Roster

/-- With ids of the fixed form, the key of a membership tells its group and its user. -/
theorem Member.idOf_inj {g g' u u' : String} (hg : Ulid.Shaped g) (hg' : Ulid.Shaped g')
    (h : Member.idOf g u = Member.idOf g' u') : g = g' ∧ u = u' := by
  have hl : g.toList ++ ("_".toList ++ u.toList) = g'.toList ++ ("_".toList ++ u'.toList) := by
    simpa only [Member.idOf, String.toList_append, List.append_assoc] using congrArg String.toList h
  -- Both ids end at the same place, whatever the users' ids hold.
  obtain ⟨hgroup, hrest⟩ := List.append_inj hl (hg.1.trans hg'.1.symm)
  exact ⟨String.toList_inj.mp hgroup, String.toList_inj.mp (List.append_cancel_left hrest)⟩

namespace Store

/-- The membership is made for the group. -/
def MadeFor (groupId : String) (m : Member) : Prop :=
  m.groupId = groupId ∧ m.id = Member.idOf m.groupId m.userId

theorem madeFor_new (groupId userId : String) (role : Role) (now : Int) :
    MadeFor groupId (.new groupId userId role now) := ⟨rfl, rfl⟩

/-- The call adds memberships only to the group that they are made for, and it adds groups and
takes memberships away only under what looks like the id of a group. -/
def Call.Proper : Call → Prop
  | .insertGroup g owner => Ulid.Shaped g.id ∧ MadeFor g.id owner
  | .upsertMembers groupId members => ∀ m ∈ members, MadeFor groupId m
  | .deleteMember groupId _ => Ulid.Shaped groupId
  | _ => True

namespace Memory

/-- Every membership stands under the key made of its group and its user, and its group is there;
the ids of groups look like ids. -/
structure RowsKept (s : Memory) : Prop where
  shaped : ∀ {k}, s.groups.contains k → Ulid.Shaped k
  keyed : s.members.Keyed Member.id
  id_eq : ∀ {k m}, s.members.get? k = some m → m.id = Member.idOf m.groupId m.userId
  group : ∀ {k m}, s.members.get? k = some m → s.groups.contains m.groupId

variable {s s' : Memory}

theorem rowsKept_empty : RowsKept {} where
  shaped h := by cases h
  keyed := Table.keyed_empty
  id_eq h := by cases h
  group h := by cases h

/-! ## Finding a membership -/

/-- The membership that stands under the key of a group and a user is one of that user in that
group. -/
theorem RowsKept.of_findMember (h : s.RowsKept) {g u : String} {m : Member} (hg : Ulid.Shaped g)
    (hm : s.findMember g u = some m) : m.groupId = g ∧ m.userId = u := by
  have hkey : Member.idOf m.groupId m.userId = Member.idOf g u :=
    (h.id_eq hm).symm.trans (h.keyed hm)
  exact Member.idOf_inj (h.shaped (h.group hm)) hg hkey

/-- A membership is found by its group and its user. -/
theorem RowsKept.findMember_eq (h : s.RowsKept) {k : String} {m : Member}
    (hm : s.members.get? k = some m) : s.findMember m.groupId m.userId = some m := by
  rw [findMember, ← h.id_eq hm]
  exact h.keyed.get? hm

theorem RowsKept.findMember_eq_some_iff (h : s.RowsKept) {g u : String} {m : Member}
    (hg : Ulid.Shaped g) :
    s.findMember g u = some m ↔
      (∃ k, s.members.get? k = some m) ∧ m.groupId = g ∧ m.userId = u := by
  constructor
  · intro hm
    exact ⟨⟨_, hm⟩, h.of_findMember hg hm⟩
  · rintro ⟨⟨k, hk⟩, rfl, rfl⟩
    exact h.findMember_eq hk

/-- The user has the role in the group. -/
def HasRole (s : Memory) (userId groupId : String) (role : Role) : Prop :=
  ∃ k m, s.members.get? k = some m ∧ m.groupId = groupId ∧ m.userId = userId ∧ m.role = role

theorem RowsKept.hasRole (h : s.RowsKept) {g u : String} {m : Member} (hg : Ulid.Shaped g)
    (hm : s.findMember g u = some m) : s.HasRole u g m.role := by
  obtain ⟨hgroup, huser⟩ := h.of_findMember hg hm
  exact ⟨_, m, hm, hgroup, huser, rfl⟩

/-- Two memberships of one user in one group are the same. -/
theorem RowsKept.row_eq (h : s.RowsKept) {k k' : String} {m m' : Member}
    (hm : s.members.get? k = some m) (hm' : s.members.get? k' = some m')
    (hgroup : m.groupId = m'.groupId) (huser : m.userId = m'.userId) : k = k' ∧ m = m' := by
  have hkey : k = k' := by
    rw [← h.keyed hm, ← h.keyed hm', h.id_eq hm, h.id_eq hm', hgroup, huser]
  subst hkey
  exact ⟨rfl, Option.some.inj (hm.symm.trans hm')⟩

/-! ## The calls -/

/-- The rows of a store go over to one with the same memberships and no fewer groups. -/
theorem RowsKept.of_groups (h : s.RowsKept) (hm : s'.members = s.members)
    (hshaped : ∀ {k}, s'.groups.contains k → Ulid.Shaped k)
    (hgroups : ∀ {k}, s.groups.contains k → s'.groups.contains k) : s'.RowsKept where
  shaped := hshaped
  keyed := hm ▸ h.keyed
  id_eq hk := h.id_eq (hm ▸ hk)
  group hk := hgroups (h.group (hm ▸ hk))

/-- A membership that is put under its key, made for a group of the store, keeps the rows. -/
theorem RowsKept.insert_row (h : s.RowsKept) {m : Member}
    (hid : m.id = Member.idOf m.groupId m.userId) (hgroup : s.groups.contains m.groupId) :
    RowsKept { s with members := s.members.insert m.id m } where
  shaped := h.shaped
  keyed := h.keyed.insert rfl
  id_eq hk := by
    rw [Table.get?_insert] at hk
    split at hk
    · cases hk
      exact hid
    · exact h.id_eq hk
  group hk := by
    rw [Table.get?_insert] at hk
    split at hk
    · cases hk
      exact hgroup
    · exact h.group hk

theorem upsertMember_rowsKept (h : s.RowsKept) {m : Member} {groupId : String}
    (hm : MadeFor groupId m) (hgroup : s.groups.contains groupId) :
    RowsKept { s with members := upsertMember s.members m } := by
  unfold upsertMember
  split
  · next old hold =>
      have hid : old.id = m.id := h.keyed hold
      have hkey : old.id = Member.idOf old.groupId old.userId := h.id_eq hold
      have hthere : s.groups.contains old.groupId := h.group hold
      rw [← hid]
      exact h.insert_row (m := { old with role := m.role, updateTime := m.updateTime }) hkey hthere
  · exact h.insert_row hm.2 (hm.1 ▸ hgroup)

/-- Each membership of the batch finds the rows kept by those before it. -/
theorem foldl_upsertMember_rowsKept {groupId : String} (members : List Member)
    (hm : ∀ m ∈ members, MadeFor groupId m) (h : s.RowsKept) (hgroup : s.groups.contains groupId) :
    RowsKept { s with members := members.foldl upsertMember s.members } := by
  induction members generalizing s with
  | nil => exact h
  | cons m members ih =>
      have hrest : ∀ m ∈ members, MadeFor groupId m :=
        fun m hm' => hm m (List.mem_cons_of_mem _ hm')
      exact ih (s := { s with members := upsertMember s.members m }) hrest
        (upsertMember_rowsKept h (hm m List.mem_cons_self) hgroup) hgroup

theorem contains_insert {t : Table Group} {k j : String} {g : Group} :
    (t.insert k g).contains j ↔ j = k ∨ t.contains j := by
  rw [Table.contains, Table.get?_insert]
  split
  · next h => simp [h]
  · next h => simp [h, Table.contains]

theorem insertGroup_rowsKept (h : s.RowsKept) {g : Group} {owner : Member}
    (hg : Ulid.Shaped g.id) (howner : MadeFor g.id owner) (hs : s.insertGroup g owner = .ok s') :
    s'.RowsKept := by
  unfold insertGroup at hs
  split at hs
  · cases hs
  · split at hs
    · cases hs
    · cases hs
      have hwith : RowsKept
          { s with
            namespaces := s.namespaces.insert g.slug g.namespace
            groups := s.groups.insert g.id g } := by
        refine h.of_groups rfl (fun hk => ?_) fun hk => contains_insert.mpr (.inr hk)
        rcases contains_insert.mp hk with rfl | hk
        · exact hg
        · exact h.shaped hk
      exact hwith.insert_row howner.2 (contains_insert.mpr (.inl howner.1))

theorem updateGroup_rowsKept (h : s.RowsKept) {g : Group} (hs : s.updateGroup g = .ok s') :
    s'.RowsKept := by
  unfold updateGroup at hs
  split at hs
  · cases hs
  · next old hold =>
      have hshaped : ∀ {k}, (s.groups.insert g.id (withTextsOf old g)).contains k →
          Ulid.Shaped k := by
        intro k hk
        rcases contains_insert.mp hk with rfl | hk
        · exact h.shaped (Table.contains_iff.mpr ⟨old, hold⟩)
        · exact h.shaped hk
      split at hs
      · cases hs
        exact h.of_groups rfl hshaped fun hk => contains_insert.mpr (.inr hk)
      · split at hs
        · cases hs
        · cases hs
          exact h.of_groups rfl hshaped fun hk => contains_insert.mpr (.inr hk)

/-- The memberships of a deleted group go with it. -/
theorem deleteGroup_rowsKept (h : s.RowsKept) (id : String) : (s.deleteGroup id).2.RowsKept := by
  unfold deleteGroup
  split
  · exact h
  · have hold : ∀ {k m}, (s.members.filter fun _ m => m.groupId ≠ id).get? k = some m →
        s.members.get? k = some m ∧ m.groupId ≠ id := by
      intro k m hm
      rw [Table.get?_filter, Option.filter_eq_some_iff] at hm
      simpa using hm
    refine ⟨fun hk => h.shaped ?_, h.keyed.filter _, fun hk => h.id_eq (hold hk).1, fun hk => ?_⟩
    · rw [Table.contains, Table.get?_erase] at hk
      split at hk
      · cases hk
      · exact hk
    · obtain ⟨hm, hne⟩ := hold hk
      rw [Table.contains, Table.get?_erase, if_neg hne]
      exact h.group hm

theorem deleteMember_rowsKept (h : s.RowsKept) (groupId userId : String) :
    (s.deleteMember groupId userId).2.RowsKept := by
  have hold : ∀ {j k m}, (s.members.erase j).get? k = some m → s.members.get? k = some m := by
    intro j k m hm
    rw [Table.get?_erase] at hm
    split at hm
    · cases hm
    · exact hm
  exact ⟨h.shaped, h.keyed.erase _, fun hk => h.id_eq (hold hk), fun hk => h.group (hold hk)⟩

/-- **Every proper call keeps the rows.** -/
theorem answer_rowsKept {c : Call} (hc : c.Proper) (h : s.RowsKept) : (answer c s).2.RowsKept := by
  cases c with
  | insertGroup g owner => exact written_inv h (insertGroup_rowsKept h hc.1 hc.2)
  | updateGroup g => exact written_inv h (updateGroup_rowsKept h)
  | deleteGroup id => exact deleteGroup_rowsKept h id
  | upsertMembers groupId members =>
      refine written_inv h fun {s'} hs => ?_
      unfold upsertMembers at hs
      split at hs
      · next hgroup =>
          cases hs
          exact foldl_upsertMember_rowsKept members hc h hgroup
      · cases hs
  | deleteMember groupId userId => exact deleteMember_rowsKept h groupId userId
  | insertUser u =>
      refine written_inv h fun {s'} hs => ?_
      unfold insertUser at hs
      split at hs
      · cases hs
      · split at hs
        · cases hs
        · cases hs
          exact h.of_groups rfl h.shaped id
  | updateProfile u =>
      show (s.updateProfile u).RowsKept
      unfold updateProfile
      split
      · exact h.of_groups rfl h.shaped id
      · exact h
  | countGroups | pageGroups | findGroup | listMembers | findMember | countMemberGroups
  | pageMemberGroups | findUser | findUsers | listUsers | findNamespace => exact h

/-- What proper calls keep. -/
structure Kept (s : Memory) : Prop where
  slugs : s.SlugsKept
  rows : s.RowsKept

theorem kept_empty : Kept {} := ⟨slugsKept_empty, rowsKept_empty⟩

theorem answer_kept {c : Call} (hc : c.Proper) (h : s.Kept) : (answer c s).2.Kept :=
  ⟨answer_slugsKept c h.slugs, answer_rowsKept hc h.rows⟩

/-- A group that is found stands under its id. -/
theorem SlugsKept.get?_of_findGroup (h : s.SlugsKept) {slug : String} {g : Group}
    (hg : s.findGroup slug = some g) : s.groups.get? g.id = some g :=
  h.groups.mem_values_iff.mp (List.mem_of_find?_eq_some hg)

theorem Kept.shaped_of_findGroup (h : s.Kept) {slug : String} {g : Group}
    (hg : s.findGroup slug = some g) : Ulid.Shaped g.id :=
  h.rows.shaped (Table.contains_iff.mpr ⟨g, h.slugs.get?_of_findGroup hg⟩)

/-! ## What a call concerns -/

/-- All that the store holds of a group: its record and its memberships. -/
def atGroup (s : Memory) (id : String) : Option Group × Table Member :=
  (s.groups.get? id, s.members.filter fun _ m => m.groupId = id)

end Memory

/-- The group that a call is meant to change. -/
def Call.target? : Call → Option String
  | .updateGroup g => some g.id
  | .deleteGroup id => some id
  | .upsertMembers groupId _ => some groupId
  | .deleteMember groupId _ => some groupId
  | _ => none

namespace Memory

variable {s s' : Memory}

/-- The memberships of a group do not change with a membership of another one, if there was none
of the group in its place. -/
theorem filter_insert_of_ne {t : Table Member} {k id : String} {m : Member}
    (hm : m.groupId ≠ id) (hold : ∀ old, t.get? k = some old → old.groupId ≠ id) :
    ((t.insert k m).filter fun _ m => m.groupId = id) = t.filter fun _ m => m.groupId = id := by
  ext1 j
  rw [Table.get?_filter, Table.get?_filter, Table.get?_insert]
  split
  · next hj =>
      subst hj
      cases ho : t.get? j with
      | none => simp [Option.filter_some, hm]
      | some old => simp [Option.filter_some, hm, hold old ho]
  · rfl

/-- Whatever stands under the key of a membership of one group is of that group. -/
theorem RowsKept.groupId_of_key (h : s.RowsKept) {g u : String} {old : Member} (hg : Ulid.Shaped g)
    (hold : s.members.get? (Member.idOf g u) = some old) : old.groupId = g :=
  (h.of_findMember hg hold).1

theorem upsertMember_atGroup (h : s.RowsKept) {m : Member} {groupId id : String}
    (hm : MadeFor groupId m) (hshaped : Ulid.Shaped groupId) (hne : groupId ≠ id) :
    atGroup { s with members := upsertMember s.members m } id = s.atGroup id := by
  have hkey : ∀ old, s.members.get? m.id = some old → old.groupId ≠ id := by
    intro old hold
    rw [hm.2, hm.1] at hold
    rwa [h.groupId_of_key hshaped hold]
  refine congrArg (Prod.mk _) ?_
  show (upsertMember s.members m).filter _ = _
  unfold upsertMember
  split
  · next old hold => exact filter_insert_of_ne (hkey old hold) hkey
  · exact filter_insert_of_ne (hm.1 ▸ hne) hkey

theorem foldl_upsertMember_atGroup {groupId id : String} (members : List Member)
    (hm : ∀ m ∈ members, MadeFor groupId m) (h : s.RowsKept) (hgroup : s.groups.contains groupId)
    (hne : groupId ≠ id) :
    atGroup { s with members := members.foldl upsertMember s.members } id = s.atGroup id := by
  induction members generalizing s with
  | nil => rfl
  | cons m members ih =>
      have hrest : ∀ m ∈ members, MadeFor groupId m :=
        fun m hm' => hm m (List.mem_cons_of_mem _ hm')
      have hfirst : MadeFor groupId m := hm m List.mem_cons_self
      refine (ih (s := { s with members := upsertMember s.members m }) hrest
        (upsertMember_rowsKept h hfirst hgroup) hgroup).trans ?_
      exact upsertMember_atGroup h hfirst (h.shaped hgroup) hne

theorem insertGroup_atGroup (h : s.RowsKept) {g : Group} {owner : Member} {id : String}
    (hshaped : Ulid.Shaped g.id) (howner : MadeFor g.id owner) (hid : s.groups.contains id)
    (hs : s.insertGroup g owner = .ok s') : s'.atGroup id = s.atGroup id := by
  unfold insertGroup at hs
  split at hs
  · cases hs
  · split at hs
    · cases hs
    · next hnew =>
        cases hs
        have hne : g.id ≠ id := by
          rintro rfl
          exact hnew hid
        refine Prod.ext ?_ ?_
        · exact (Table.get?_insert ..).trans (if_neg hne.symm)
        · refine filter_insert_of_ne (howner.1 ▸ hne) fun old hold => ?_
          rw [howner.2, howner.1] at hold
          rwa [h.groupId_of_key hshaped hold]

theorem updateGroup_atGroup {g : Group} {id : String} (hne : g.id ≠ id)
    (hs : s.updateGroup g = .ok s') : s'.atGroup id = s.atGroup id := by
  have hget : ∀ x, (s.groups.insert g.id x).get? id = s.groups.get? id := fun x =>
    (Table.get?_insert ..).trans (if_neg hne.symm)
  unfold updateGroup at hs
  split at hs
  · cases hs
  · split at hs
    · cases hs
      exact Prod.ext (hget _) rfl
    · split at hs
      · cases hs
      · cases hs
        exact Prod.ext (hget _) rfl

theorem deleteGroup_atGroup {k id : String} (hne : k ≠ id) :
    (s.deleteGroup k).2.atGroup id = s.atGroup id := by
  unfold deleteGroup
  split
  · rfl
  · refine Prod.ext ?_ ?_
    · exact (Table.get?_erase ..).trans (if_neg hne.symm)
    · ext1 j
      simp only [atGroup, Table.get?_filter]
      cases hj : s.members.get? j with
      | none => rfl
      | some m =>
          by_cases hm : m.groupId = id
          · simp [Option.filter_some, hm, hne.symm]
          · simp [Option.filter_some, hm]

theorem deleteMember_atGroup (h : s.RowsKept) {k u id : String} (hshaped : Ulid.Shaped k)
    (hne : k ≠ id) : (s.deleteMember k u).2.atGroup id = s.atGroup id := by
  refine Prod.ext rfl ?_
  ext1 j
  simp only [deleteMember, atGroup, Table.get?_filter, Table.get?_erase]
  split
  · next hj =>
      subst hj
      cases hold : s.members.get? (Member.idOf k u) with
      | none => rfl
      | some old =>
          have hk : old.groupId = k := h.groupId_of_key hshaped hold
          simp [Option.filter_some, hk, hne]
  · rfl

/-- **A call changes no other group** than the one it is meant to change. -/
theorem answer_atGroup (h : s.RowsKept) {c : Call} (hc : c.Proper) {id : String}
    (hid : s.groups.contains id) (hne : c.target? ≠ some id) :
    (answer c s).2.atGroup id = s.atGroup id := by
  have hkeep : ∀ {r : Except Fault Memory}, (∀ {s'}, r = .ok s' → s'.atGroup id = s.atGroup id) →
      (s.written r).2.atGroup id = s.atGroup id :=
    fun hr => written_inv (P := fun s' => s'.atGroup id = s.atGroup id) rfl hr
  cases c with
  | insertGroup g owner => exact hkeep (insertGroup_atGroup h hc.1 hc.2 hid)
  | updateGroup g => exact hkeep (updateGroup_atGroup fun he => hne (congrArg some he))
  | deleteGroup k => exact deleteGroup_atGroup fun he => hne (congrArg some he)
  | upsertMembers groupId members =>
      refine hkeep fun {s'} hs => ?_
      unfold upsertMembers at hs
      split at hs
      · next hgroup =>
          cases hs
          exact foldl_upsertMember_atGroup members hc h hgroup fun he => hne (congrArg some he)
      · cases hs
  | deleteMember groupId userId =>
      exact deleteMember_atGroup h hc fun he => hne (congrArg some he)
  | insertUser u =>
      refine hkeep fun {s'} hs => ?_
      unfold insertUser at hs
      split at hs
      · cases hs
      · split at hs
        · cases hs
        · cases hs
          rfl
  | updateProfile u =>
      show (s.updateProfile u).atGroup id = s.atGroup id
      unfold updateProfile
      split
      · rfl
      · rfl
  | countGroups | pageGroups | findGroup | listMembers | findMember | countMemberGroups
  | pageMemberGroups | findUser | findUsers | listUsers | findNamespace => rfl

end Memory

end Store

end Roster
