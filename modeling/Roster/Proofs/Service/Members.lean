/-
# Roles set in one batch

A list of changes is merged before it is written: each user is left with one change, in
the place of its first one and with the role of its last.  What is written is what the
changes would have written one by one.

The list matters to both only through the last change of each user (`last?`).  Merging
keeps that (`last?_mergeAll`), and the memberships that are there in the end depend on
nothing else (`foldl_applyTo`).  So no induction compares a merged list with one that is
not.  The store then follows key by key: under the key of a user in the group stands what
the changes made of it, and under any other key what stood there before.
-/
import Mathlib.Data.List.Induction
import Mathlib.Data.List.Nodup
import Roster.Proofs.Service.Rights

namespace Roster

namespace Member.Change

variable {changes : List Change} {c d : Change} {userId : String}

/-! ## The last change of a user -/

/-- The last change of a user in a list. -/
def last? (changes : List Change) (userId : String) : Option Change :=
  changes.reverse.find? fun c => c.userId == userId

theorem last?_concat : last? (changes ++ [c]) userId =
    if c.userId = userId then some c else last? changes userId := by
  unfold last?
  rw [List.reverse_append, List.reverse_singleton, List.singleton_append, List.find?_cons]
  by_cases h : c.userId = userId
  · simp [h]
  · simp [h, beq_false_of_ne h]

theorem userId_of_last? (h : last? changes userId = some c) : c.userId = userId := by
  simpa using List.find?_some h

theorem last?_eq_none_iff : last? changes userId = none ↔ userId ∉ changes.map (·.userId) := by
  simp [last?]

/-! ## Merging -/

theorem mergeAll_concat : mergeAll (changes ++ [c]) = merge (mergeAll changes) c := by
  rw [mergeAll, List.foldl_append]
  rfl

/-- The role of a change, in each of the changes before it for the same user. -/
theorem merge_of_mem {merged : List Change} (h : c.userId ∈ merged.map (·.userId)) :
    merge merged c =
      merged.map fun d => if d.userId = c.userId then { d with role := c.role } else d := by
  rw [merge, if_pos]
  simpa using h

theorem merge_of_not_mem {merged : List Change} (h : c.userId ∉ merged.map (·.userId)) :
    merge merged c = merged ++ [c] := by
  rw [merge, if_neg]
  simpa using h

/-- A merged change stands for a user of the list: an old one in its place, a new one at the end. -/
theorem map_userId_merge (merged : List Change) (c : Change) :
    (merge merged c).map (·.userId) =
      if c.userId ∈ merged.map (·.userId) then merged.map (·.userId)
      else merged.map (·.userId) ++ [c.userId] := by
  split
  · next h =>
      rw [merge_of_mem h, List.map_map]
      refine List.map_congr_left fun d _ => ?_
      dsimp only [Function.comp_apply]
      split <;> rfl
  · next h => rw [merge_of_not_mem h, List.map_append, List.map_singleton]

/-- **Merging leaves each user once**, in the order of the first changes. -/
theorem map_userId_mergeAll (changes : List Change) :
    (mergeAll changes).map (·.userId) = (changes.map (·.userId)).eraseDups := by
  induction changes using List.reverseRecOn with
  | nil => rfl
  | append_singleton changes c ih =>
      rw [mergeAll_concat, map_userId_merge, ih, List.map_append, List.map_singleton,
        List.eraseDups_append, List.cons_removeAll]
      by_cases h : c.userId ∈ changes.map (·.userId)
      · rw [if_pos (List.mem_eraseDups.mpr h), if_neg (by simpa using h)]
        exact (List.append_nil _).symm
      · rw [if_neg (mt List.mem_eraseDups.mp h), if_pos (by simpa using h)]
        rfl

theorem nodup_mergeAll (changes : List Change) : ((mergeAll changes).map (·.userId)).Nodup := by
  induction changes using List.reverseRecOn with
  | nil => exact List.nodup_nil
  | append_singleton changes c ih =>
      rw [mergeAll_concat, map_userId_merge]
      split
      · exact ih
      · next h => exact List.nodup_append_comm.mp (List.nodup_cons.mpr ⟨h, ih⟩)

/-- The change for a user takes the place of the last one of that user, and of no other. -/
theorem last?_merge (merged : List Change) (c : Change) :
    last? (merge merged c) userId = if c.userId = userId then some c else last? merged userId := by
  by_cases h : c.userId ∈ merged.map (·.userId)
  · have huser : ∀ d : Change, (if d.userId = c.userId then { d with role := c.role }
        else d).userId = d.userId := by
      intro d
      split <;> rfl
    have hmap : last? (merge merged c) userId = (last? merged userId).map fun d =>
        if d.userId = c.userId then { d with role := c.role } else d := by
      rw [merge_of_mem h, last?, ← List.map_reverse, List.find?_map, last?]
      simp only [Function.comp_def, huser]
    rw [hmap]
    cases hlast : last? merged userId with
    | none =>
        have hne : c.userId ≠ userId := fun he => last?_eq_none_iff.mp hlast (he ▸ h)
        rw [if_neg hne, Option.map_none]
    | some d =>
        have hd : d.userId = userId := userId_of_last? hlast
        rw [Option.map_some, hd]
        by_cases hc : userId = c.userId
        · rw [if_pos hc, if_pos hc.symm, hc]
        · rw [if_neg hc, if_neg (Ne.symm hc)]
  · rw [merge_of_not_mem h, last?_concat]

/-- **Merging keeps the last change of each user.** -/
theorem last?_mergeAll (changes : List Change) :
    last? (mergeAll changes) userId = last? changes userId := by
  induction changes using List.reverseRecOn with
  | nil => rfl
  | append_singleton changes c ih => rw [mergeAll_concat, last?_merge, last?_concat, ih]

/-- Of a user with one change, that one is the last. -/
theorem last?_of_mem (hnodup : (changes.map (·.userId)).Nodup) (h : d ∈ changes) :
    last? changes d.userId = some d := by
  cases he : last? changes d.userId with
  | none => exact absurd (List.mem_map_of_mem h) (last?_eq_none_iff.mp he)
  | some e =>
      have hmem : e ∈ changes := List.mem_reverse.mp (List.mem_of_find?_eq_some he)
      have hsame : e.userId = d.userId := userId_of_last? he
      rw [List.inj_on_of_nodup_map hnodup hmem h hsame]

/-! ## Changes one by one -/

/-- The membership that a change makes for a user who has none. -/
def fresh (groupId : String) (time : Int) (c : Change) : Member := .new groupId c.userId c.role time

/-- The membership of the user after a change: the one that was there with another role, or a new
one. -/
def row (groupId : String) (time : Int) (c : Change) : Option Member → Member
  | some m => { m with role := c.role, updateTime := time }
  | none => c.fresh groupId time

/-- The memberships of a group, by user, after a change at a time. -/
def applyTo (groupId : String) (time : Int) (rows : String → Option Member) (c : Change) :
    String → Option Member :=
  fun userId => if userId = c.userId then some (c.row groupId time (rows userId)) else rows userId

variable {groupId : String} {time : Int}

/-- A change leaves nothing of one before it for the same user. -/
theorem row_row {old : Option Member} (h : d.userId = c.userId) :
    c.row groupId time (some (d.row groupId time old)) = c.row groupId time old := by
  cases old with
  | some m => rfl
  | none =>
      show { d.fresh groupId time with role := c.role, updateTime := time } = c.fresh groupId time
      rw [fresh, h]
      rfl

/-- **Only the last change of a user decides** what its membership is in the end: the ones before
it leave no trace, since a role and an update time are all that they set. -/
theorem foldl_applyTo (rows : String → Option Member) (changes : List Change) (userId : String) :
    changes.foldl (applyTo groupId time) rows userId =
      match last? changes userId with
      | some c => some (c.row groupId time (rows userId))
      | none => rows userId := by
  induction changes using List.reverseRecOn with
  | nil => rfl
  | append_singleton changes c ih =>
      rw [List.foldl_append, List.foldl_cons, List.foldl_nil, last?_concat, applyTo, ih]
      by_cases h : c.userId = userId
      · rw [if_pos h.symm, if_pos h]
        dsimp only
        cases hlast : last? changes userId with
        | none => rfl
        | some d => exact congrArg some (row_row ((userId_of_last? hlast).trans h.symm))
      · rw [if_neg (Ne.symm h), if_neg h]

/-- Merged changes lead to the same memberships. -/
theorem foldl_applyTo_mergeAll (rows : String → Option Member) (changes : List Change) :
    (mergeAll changes).foldl (applyTo groupId time) rows =
      changes.foldl (applyTo groupId time) rows := by
  funext userId
  rw [foldl_applyTo, foldl_applyTo, last?_mergeAll]

end Member.Change

/-! ## Changes in the store -/

/-- In one group, the key of a membership tells its user, whatever the id of the group is. -/
theorem Member.idOf_user_inj {groupId u u' : String} :
    Member.idOf groupId u = Member.idOf groupId u' ↔ u = u' := by
  unfold Member.idOf
  exact String.append_right_inj _

namespace Store.Memory

open Member (Change)

variable {s : Memory} {t : Table Member} {groupId : String} {time : Int} {changes : List Change}
  {k : String}

/-- The table of memberships after a change. -/
def upsertChange (groupId : String) (time : Int) (t : Table Member) (c : Change) : Table Member :=
  upsertMember t (c.fresh groupId time)

theorem upsertChange_eq (c : Change) :
    upsertChange groupId time t c =
      t.insert (Member.idOf groupId c.userId)
        (c.row groupId time (t.get? (Member.idOf groupId c.userId))) := by
  show (match t.get? (Member.idOf groupId c.userId) with
    | some old => t.insert _ { old with role := c.role, updateTime := time }
    | none => t.insert _ (c.fresh groupId time)) = _
  cases t.get? (Member.idOf groupId c.userId) with
  | some old => rfl
  | none => rfl

/-- A change sets what is under one key. -/
theorem get?_upsertChange (c : Change) :
    (upsertChange groupId time t c).get? k =
      if k = Member.idOf groupId c.userId then some (c.row groupId time (t.get? k))
      else t.get? k := by
  rw [upsertChange_eq, Table.get?_insert]
  split
  · next hk => rw [hk]
  · rfl

/-- In the table as among the memberships of the group, changes are made one by one. -/
theorem get?_foldl_upsertChange (changes : List Change) (userId : String) :
    (changes.foldl (upsertChange groupId time) t).get? (Member.idOf groupId userId) =
      changes.foldl (Change.applyTo groupId time) (fun u => t.get? (Member.idOf groupId u))
        userId := by
  induction changes generalizing t with
  | nil => rfl
  | cons c changes ih =>
      have hfirst : (fun u => (upsertChange groupId time t c).get? (Member.idOf groupId u)) =
          Change.applyTo groupId time (fun u => t.get? (Member.idOf groupId u)) c := by
        funext u
        simp only [get?_upsertChange, Change.applyTo, Member.idOf_user_inj]
      rw [List.foldl_cons, List.foldl_cons, ih, hfirst]

theorem get?_foldl_upsertChange_of_ne (h : ∀ c ∈ changes, k ≠ Member.idOf groupId c.userId) :
    (changes.foldl (upsertChange groupId time) t).get? k = t.get? k := by
  induction changes generalizing t with
  | nil => rfl
  | cons c changes ih =>
      rw [List.foldl_cons, ih fun d hd => h d (List.mem_cons_of_mem _ hd), get?_upsertChange,
        if_neg (h c List.mem_cons_self)]

/-- **Merged changes leave the same table**: each key is that of a user in the group, where the
last change decides, or one that no change reaches. -/
theorem foldl_upsertChange_mergeAll (changes : List Change) :
    (Change.mergeAll changes).foldl (upsertChange groupId time) t =
      changes.foldl (upsertChange groupId time) t := by
  ext1 k
  by_cases h : ∃ userId, k = Member.idOf groupId userId
  · obtain ⟨userId, rfl⟩ := h
    rw [get?_foldl_upsertChange, get?_foldl_upsertChange, Change.foldl_applyTo_mergeAll]
  · have hne : ∀ userId, k ≠ Member.idOf groupId userId := fun userId hk => h ⟨userId, hk⟩
    rw [get?_foldl_upsertChange_of_ne fun c _ => hne c.userId,
      get?_foldl_upsertChange_of_ne fun c _ => hne c.userId]

/-- Memberships that are there stay, but for their role and update time. -/
theorem foldl_upsertChange_some (changes : List Change) {m : Member} (hm : t.get? k = some m) :
    ∃ m', (changes.foldl (upsertChange groupId time) t).get? k = some m' ∧
      m' = { m with role := m'.role, updateTime := m'.updateTime } := by
  induction changes generalizing t m with
  | nil => exact ⟨m, hm, rfl⟩
  | cons c changes ih =>
      have hfirst : ∃ m₁, (upsertChange groupId time t c).get? k = some m₁ ∧
          m₁ = { m with role := m₁.role, updateTime := m₁.updateTime } := by
        rw [get?_upsertChange, hm]
        split
        · exact ⟨_, rfl, rfl⟩
        · exact ⟨m, rfl, rfl⟩
      obtain ⟨m₁, hm₁, hsame⟩ := hfirst
      obtain ⟨m₂, hm₂, hrest⟩ := ih hm₁
      refine ⟨m₂, hm₂, ?_⟩
      rw [hrest, hsame]

theorem foldl_upsertChange_rowsKept (h : s.RowsKept) (hgroup : s.groups.contains groupId)
    (changes : List Change) :
    RowsKept { s with members := changes.foldl (upsertChange groupId time) s.members } := by
  have hmade : ∀ m ∈ changes.map (Change.fresh groupId time), MadeFor groupId m := by
    intro m hm
    obtain ⟨c, -, rfl⟩ := List.mem_map.mp hm
    exact madeFor_new ..
  have hrows := foldl_upsertMember_rowsKept _ hmade h hgroup
  rwa [List.foldl_map] at hrows

/-- A membership of another group, or of a user whom no change concerns, stands under a key that no
change reaches. -/
theorem RowsKept.ne_of_out (h : s.RowsKept) (hshaped : Ulid.Shaped groupId) {m : Member}
    (hm : s.members.get? k = some m)
    (hout : m.groupId ≠ groupId ∨ m.userId ∉ changes.map (·.userId)) :
    ∀ c ∈ changes, k ≠ Member.idOf groupId c.userId := by
  rintro c hc rfl
  obtain ⟨hgroup, huser⟩ := h.of_findMember hshaped hm
  rcases hout with hne | hne
  · exact hne hgroup
  · exact hne (huser ▸ List.mem_map_of_mem hc)

/-- **Changes reach no membership but those of their users in the group.** -/
theorem get?_foldl_upsertChange_iff (h : s.RowsKept) (hgroup : s.groups.contains groupId)
    {m : Member} (hout : m.groupId ≠ groupId ∨ m.userId ∉ changes.map (·.userId)) :
    (changes.foldl (upsertChange groupId time) s.members).get? k = some m ↔
      s.members.get? k = some m := by
  constructor
  · intro hm
    have hne := (foldl_upsertChange_rowsKept h hgroup changes).ne_of_out (h.shaped hgroup) hm hout
    rwa [get?_foldl_upsertChange_of_ne hne] at hm
  · intro hm
    rwa [get?_foldl_upsertChange_of_ne (h.ne_of_out (h.shaped hgroup) hm hout)]

/-- The same changes as so many calls of the store. -/
theorem foldl_answer_upsertMembers (hgroup : s.groups.contains groupId) (changes : List Change) :
    changes.foldl
        (fun s c => (answer (.upsertMembers groupId [c.fresh groupId time]) s).2) s =
      { s with members := changes.foldl (upsertChange groupId time) s.members } := by
  induction changes generalizing s with
  | nil => rfl
  | cons c changes ih =>
      have hfirst : (answer (.upsertMembers groupId [c.fresh groupId time]) s).2 =
          { s with members := upsertChange groupId time s.members c } := by
        simp only [answer, upsertMembers, if_pos hgroup]
        rfl
      rw [List.foldl_cons, hfirst]
      exact ih (s := { s with members := upsertChange groupId time s.members c }) hgroup

end Store.Memory

/-! ## The service -/

namespace Service

open Store (Memory)
open Store.Memory (upsertChange)

/-- An owner or an administrator who sets roles is answered the merged changes, and they are what
is written. -/
theorem alone_update {s : Memory} {σ : Supply} {c : Caller} {id slug : String} {g : Group}
    (hg : s.findGroup slug = some g) (hgroup : s.groups.contains g.id) (hid : c.id = some id)
    (hright : c.isAdmin ∨ ∃ m, s.findMember g.id id = some m ∧ Role.owner ≤ m.role)
    (changes : List Member.Change) :
    ∃ w, alone (Members.update c slug changes) s σ = (.ok (Member.Change.mergeAll changes), w) ∧
      w.store =
        { s with
          members := (Member.Change.mergeAll changes).foldl (upsertChange g.id (σ.times 0))
            s.members } := by
  obtain ⟨w, hstore, hsupply, hrun⟩ := run_requireRole (β := List Member.Change)
    (w := World.after (.findGroup slug) ⟨s, σ, []⟩) hid hright
  unfold alone Members.update
  rw [requireLogin, hid, Plan.done_bind, run_requireGroup hg, hrun]
  dsimp only
  split
  · next hempty =>
      refine ⟨w, rfl, ?_⟩
      rw [List.isEmpty_iff.mp hempty]
      exact hstore
  · rw [run_now, hsupply]
    have hwrite : ∀ members : List Member,
        Memory.answer (.upsertMembers g.id members) (w.answer .clock).2.store =
          (.ok (), { s with members := members.foldl Memory.upsertMember s.members }) := by
      intro members
      show Memory.answer (.upsertMembers g.id members) w.store = _
      rw [hstore]
      show s.written (s.upsertMembers g.id members) = _
      rw [Memory.upsertMembers, if_pos hgroup]
      rfl
    rw [run_call, hwrite]
    refine ⟨_, rfl, ?_⟩
    show (Memory.answer (.upsertMembers g.id _) (w.answer .clock).2.store).2 = _
    rw [hwrite, List.foldl_map]
    rfl

/-- **A batch of roles does what its changes would do one by one.**  An owner or an administrator who
sets roles is answered each user once, where the user comes first and with the last role.  The
memberships of the group are those that the changes lead to from left to right (`applyTo`), as if
each had been a call of its own; one that was there keeps all but its role and update time; and
there is no other change, be it to memberships of other groups, to those of users who are not in
the list, to groups, to namespaces or to users. -/
theorem batch_of_roles_as_one_by_one {t : Traffic desk} (ht : t.Reached) {c : Caller}
    {id slug : String} {g : Group} (hg : t.store.findGroup slug = some g) (hid : c.id = some id)
    (hright : c.isAdmin ∨ t.store.HasRole id g.id .owner) (changes : List Member.Change)
    (σ : Supply) :
    ∃ applied w, alone (Members.update c slug changes) t.store σ = (.ok applied, w) ∧
      applied.map (·.userId) = (changes.map (·.userId)).eraseDups ∧
      (∀ d ∈ applied, Member.Change.last? changes d.userId = some d) ∧
      (∀ u m, (∃ k, w.store.members.get? k = some m) ∧ m.groupId = g.id ∧ m.userId = u ↔
        changes.foldl (Member.Change.applyTo g.id (σ.times 0)) (t.store.findMember g.id) u =
          some m) ∧
      w.store = changes.foldl (fun s d =>
        (Memory.answer (.upsertMembers g.id [d.fresh g.id (σ.times 0)]) s).2) t.store ∧
      (∀ k m, t.store.members.get? k = some m → ∃ m', w.store.members.get? k = some m' ∧
        m' = { m with role := m'.role, updateTime := m'.updateTime }) ∧
      (∀ k m, m.groupId ≠ g.id ∨ m.userId ∉ changes.map (·.userId) →
        (w.store.members.get? k = some m ↔ t.store.members.get? k = some m)) ∧
      w.store.groups = t.store.groups ∧ w.store.namespaces = t.store.namespaces ∧
      w.store.users = t.store.users := by
  obtain ⟨hslugs, hrows⟩ := ht.kept.1
  have hgroup : t.store.groups.contains g.id :=
    Table.contains_iff.mpr ⟨g, hslugs.get?_of_findGroup hg⟩
  have hrole : c.isAdmin ∨ ∃ m, t.store.findMember g.id id = some m ∧ Role.owner ≤ m.role := by
    refine hright.imp_right ?_
    rintro ⟨k, m, hm, hmgroup, hmuser, hmrole⟩
    exact ⟨m, (hrows.findMember_eq_some_iff (hrows.shaped hgroup)).mpr ⟨⟨k, hm⟩, hmgroup, hmuser⟩,
      hmrole ▸ Nat.le_refl _⟩
  obtain ⟨w, hrun, hstore⟩ := alone_update (σ := σ) hg hgroup hid hrole changes
  rw [Store.Memory.foldl_upsertChange_mergeAll] at hstore
  have hfold : w.store = changes.foldl (fun s d =>
      (Memory.answer (.upsertMembers g.id [d.fresh g.id (σ.times 0)]) s).2) t.store :=
    hstore.trans (Store.Memory.foldl_answer_upsertMembers hgroup changes).symm
  have hmade : w.store.RowsKept :=
    hstore ▸ Store.Memory.foldl_upsertChange_rowsKept hrows hgroup changes
  have hmembers : w.store.members = changes.foldl (upsertChange g.id (σ.times 0)) t.store.members :=
    congrArg Memory.members hstore
  have hfind : ∀ u, w.store.findMember g.id u =
      changes.foldl (Member.Change.applyTo g.id (σ.times 0)) (t.store.findMember g.id) u := by
    intro u
    rw [Memory.findMember, hmembers]
    exact Store.Memory.get?_foldl_upsertChange changes u
  refine ⟨_, w, hrun, Member.Change.map_userId_mergeAll changes, fun d hd => ?_, fun u m => ?_,
    hfold, fun k m hm => ?_, fun k m hout => ?_, by rw [hstore], by rw [hstore],
    by rw [hstore]⟩
  · rw [← Member.Change.last?_mergeAll]
    exact Member.Change.last?_of_mem (Member.Change.nodup_mergeAll changes) hd
  · rw [← hfind]
    exact (hmade.findMember_eq_some_iff (hrows.shaped hgroup)).symm
  · rw [hmembers]
    exact Store.Memory.foldl_upsertChange_some changes hm
  · rw [hmembers]
    exact Store.Memory.get?_foldl_upsertChange_iff hrows hgroup hout

/-- The owner of a group adds a user who is named twice, and lowers its own role in between. -/
theorem batch_with_repeats_written :
    let ada : Caller := { id := some "ada" }
    let lab := (alone (Groups.create ada ⟨"Lab", "lab", none⟩) {} .counting).2
    let changes : List Member.Change := [⟨"bob", .viewer⟩, ⟨"ada", .editor⟩, ⟨"bob", .owner⟩]
    lab.store.HasRole "ada" (Ulid.text 0 0) .owner ∧
      ∃ applied w, alone (Members.update ada "lab" changes) lab.store lab.supply = (.ok applied, w) ∧
        applied.map (·.userId) = ["bob", "ada"] ∧
        ∃ k, w.store.members.get? k = some (.new (Ulid.text 0 0) "bob" .owner 1) := by
  intro ada lab changes
  have hreached : (⟨lab.store, _⟩ : Traffic desk).Reached :=
    Traffic.Reached.alone (D := desk) .refl (.createGroup ada ⟨"Lab", "lab", none⟩)
      Supply.shaped_counting
  have hgroup : lab.store.findGroup "lab" =
      some ⟨Ulid.text 0 0, "Lab", "lab", none, "ada", 0, 0⟩ := by rfl
  have howner : lab.store.HasRole "ada" (Ulid.text 0 0) .owner :=
    ⟨Member.idOf (Ulid.text 0 0) "ada", .new (Ulid.text 0 0) "ada" .owner 0, by rfl, rfl, rfl, rfl⟩
  obtain ⟨applied, w, hrun, hids, -, hrows, -⟩ :=
    batch_of_roles_as_one_by_one (c := ada) hreached hgroup rfl (.inr howner) changes lab.supply
  refine ⟨howner, applied, w, hrun, hids.trans (by decide), ?_⟩
  exact ((hrows "bob" (.new (Ulid.text 0 0) "bob" .owner 1)).mpr (by rfl)).1

end Service

end Roster
