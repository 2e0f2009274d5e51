/-
# Deletion is final

A request that has looked at a group still holds it when the group is deleted, and may
write afterwards: a patch, roles, another deletion.  None of these brings the group back,
because only an insertion brings a group in (`inserted_of_contains`).

So the question is whether a group can be inserted a second time.  A request inserts one
group, and right before that it was given the id of the group.  If ids are given out once
(`Traffic.groupIds` has no repetitions), the request that has inserted a group is the only
one that ever will, and it has done so already (`Traffic.Step.not_contains`).

Memberships and namespace entries need no argument of their own: they belong to groups
that are there (`Memory.Kept`).  For the same reason a new group starts with nothing but
the membership of its maker.
-/
import Mathlib.Data.List.Nodup
import Mathlib.Data.List.Pairwise
import Roster.Proofs.Schedule
import Roster.Proofs.Service.Rights
import Roster.Proofs.Service.Writing
import Roster.Proofs.Store.Parties

namespace Roster

namespace Store.Memory

variable {s s' : Memory}

theorem insertGroup_eq_ok {g : Group} {owner : Member} (h : s.insertGroup g owner = .ok s') :
    ¬ s.groups.contains g.id ∧ s'.groups = s.groups.insert g.id g ∧
      s'.members = s.members.insert owner.id owner := by
  unfold insertGroup at h
  split at h
  · cases h
  · split at h
    · cases h
    · next hid =>
        cases h
        exact ⟨hid, rfl, rfl⟩

/-- **Only an insertion brings a group in.** -/
theorem inserted_of_contains (hs : s.SlugsKept) {c : Call} {id : String}
    (h : (answer c s).2.groups.contains id) :
    s.groups.contains id ∨ ∃ g owner, c = .insertGroup g owner ∧ g.id = id := by
  obtain ⟨g, hg⟩ := Table.contains_iff.mp h
  have hkept : (answer c s).2.SlugsKept := answer_slugsKept c hs
  have hid : g.id = id := hkept.groups hg
  have hparty : (answer c s).2.Has (.group g) := hkept.groups.get? hg
  rcases has_of_answer hs hparty with hold | hput
  · exact .inl (Table.contains_iff.mpr ⟨g, hid ▸ hold⟩)
  · cases c with
    | insertGroup g' owner =>
        cases hput
        exact .inr ⟨g, owner, rfl, hid⟩
    | updateGroup g' =>
        obtain ⟨old, hold, hg'⟩ := hput
        cases hg'
        have hthere : old.id = g'.id := hs.groups hold
        exact .inl (Table.contains_iff.mpr ⟨old, hid ▸ hthere ▸ hold⟩)
    | updateProfile u =>
        obtain ⟨old, -, hg'⟩ := hput
        cases hg'
    | insertUser u => cases hput
    | _ => exact hput.elim

theorem not_contains_deleteGroup (s : Memory) (id : String) :
    ¬ (s.deleteGroup id).2.groups.contains id := by
  unfold deleteGroup
  split
  · next hnone =>
      rw [Table.contains, hnone]
      exact Bool.false_ne_true
  · rw [Table.contains, Table.get?_erase, if_pos rfl]
    exact Bool.false_ne_true

/-- A group that is not there has no membership and no entry either. -/
theorem Kept.nothing_of_not_contains (h : s.Kept) {id : String} (hid : ¬ s.groups.contains id) :
    (∀ k n, s.namespaces.get? k = some n → n.groupId ≠ some id) ∧
      ∀ k m, s.members.get? k = some m → m.groupId ≠ id := by
  refine ⟨fun k n hn he => ?_, fun k m hm he => hid (he ▸ h.rows.group hm)⟩
  obtain ⟨p, hp, -, rfl⟩ := h.slugs.party_of_entry hn
  cases p with
  | group g =>
      cases he
      exact hid (Table.contains_iff.mpr ⟨g, hp⟩)
  | user u => cases he

/-- **A new group has one membership**, that of its maker. -/
theorem Kept.rows_of_insertGroup (h : s.Kept) {g : Group} {owner : Member}
    (howner : MadeFor g.id owner) (hs : s.insertGroup g owner = .ok s') (k : String) (m : Member) :
    s'.members.get? k = some m ∧ m.groupId = g.id ↔ k = owner.id ∧ m = owner := by
  obtain ⟨hnew, -, hmembers⟩ := insertGroup_eq_ok hs
  rw [hmembers, Table.get?_insert]
  constructor
  · rintro ⟨hm, hgroup⟩
    split at hm
    · next hk => exact ⟨hk, (Option.some.inj hm).symm⟩
    · exact absurd hgroup ((h.nothing_of_not_contains hnew).2 k m hm)
  · rintro ⟨rfl, rfl⟩
    exact ⟨if_pos rfl, howner.1⟩

end Store.Memory

namespace Service

open Store (Call Memory)
open Store.Memory (Kept)

/-! ## The ids of groups -/

/-- The id that was given out, if one was asked for. -/
def Inquiry.issued? : Inquiry → Option String
  | ⟨.freshId, id, _, _⟩ => some id
  | _ => none

/-- The ids that a request was given for a group, the last one first. -/
def Request.groupIds : Request → List Inquiry → List String
  | .createGroup .., past => past.filterMap Inquiry.issued?
  | _, _ => []

/-- The ids that were given out for groups in traffic. -/
def Traffic.groupIds (t : Traffic desk) : List String :=
  t.flights.flatMap fun f => f.request.groupIds f.past

variable {t t' : Traffic desk} {id : String}

theorem Request.groupIds_mono (r : Request) {earlier past : List Inquiry}
    (h : earlier.Sublist past) : (r.groupIds earlier).Sublist (r.groupIds past) := by
  cases r with
  | createGroup c draft => exact h.filterMap _
  | _ => exact .refl _

theorem Traffic.Step.groupIds_sublist (h : t.Step t') : t.groupIds.Sublist t'.groupIds := by
  cases h with
  | arrive s fs r =>
      simp only [Traffic.groupIds, List.flatMap_append]
      exact List.sublist_append_left _ _
  | turn l r hturn =>
      cases hturn with
      | @answered q past e next he =>
          simp only [Traffic.groupIds, List.flatMap_append, List.flatMap_cons]
          have hmine := q.groupIds_mono (List.sublist_cons_self e past)
          exact (List.Sublist.refl _).append (hmine.append (.refl _))

theorem Traffic.groupIds_sublist (h : Relation.ReflTransGen Traffic.Step t t') :
    t.groupIds.Sublist t'.groupIds := by
  induction h with
  | refl => exact .refl _
  | tail _ hstep ih => exact ih.trans hstep.groupIds_sublist

/-- An id that was given out once was given to one request. -/
theorem Traffic.eq_of_groupId (hids : t.groupIds.Nodup) {f f' : Flight desk}
    (hf : f ∈ t.flights) (hf' : f' ∈ t.flights) (h : id ∈ f.request.groupIds f.past)
    (h' : id ∈ f'.request.groupIds f'.past) : f = f' := by
  have : Std.Symm (Function.onFun List.Disjoint fun f : Flight desk => f.request.groupIds f.past) :=
    ⟨fun _ _ hapart => List.disjoint_comm.mp hapart⟩
  refine Classical.byContradiction fun hne => ?_
  exact (List.nodup_flatMap.mp hids).2.forall hf hf' hne h h'

/-! ## A group is inserted once -/

/-- Before a group is inserted, its id was given out, and nothing else was asked but the time. -/
theorem Request.Asks.newGroup {r : Request} {past : List Inquiry} {g : Group} {owner : Member}
    (h : r.Asks past (.store (.insertGroup g owner))) :
    ∃ c draft u time s s', r = .createGroup c draft ∧ c.id = some u ∧
      past = [⟨.freshId, g.id, s, s⟩, ⟨.clock, time, s', s'⟩] ∧
      g = .ofDraft draft g.id u time ∧ owner = .new g.id u .owner time := by
  rcases h with hlooks | hwrites
  · exact hlooks.elim
  · cases hwrites with
    | newGroup hu => exact ⟨_, _, _, _, _, _, rfl, hu, rfl, rfl, rfl⟩

/-- So the request was given the id, and has inserted nothing yet. -/
theorem Request.Asks.first {r : Request} {past : List Inquiry} {g : Group} {owner : Member}
    (h : r.Asks past (.store (.insertGroup g owner))) :
    g.id ∈ r.groupIds past ∧
      ∀ g' owner' s, .ofCall (.insertGroup g' owner') s ∉ past := by
  obtain ⟨_, _, _, _, _, _, rfl, -, rfl, -, -⟩ := h.newGroup
  refine ⟨List.mem_cons_self, fun g' owner' s hins => ?_⟩
  rcases List.mem_cons.mp hins with hins | hins
  · exact Ask.noConfusion (congrArg Inquiry.ask hins)
  · exact Ask.noConfusion (congrArg Inquiry.ask (List.mem_singleton.mp hins))

/-- A request that has inserted a group was given its id. -/
theorem Traffic.Reached.groupId_of_inserted (ht : t.Reached) {f : Flight desk}
    (hf : f ∈ t.flights) {g : Group} {owner : Member} {s : Memory}
    (hins : .ofCall (.insertGroup g owner) s ∈ f.past) : g.id ∈ f.request.groupIds f.past := by
  obtain ⟨earlier, hearlier, -, -, hasked⟩ := (ht.asks f hf).1.of_mem hins
  have hissued : g.id ∈ f.request.groupIds earlier := (Request.Asks.first hasked).1
  exact (f.request.groupIds_mono hearlier).subset hissued

/-- Some request has tried to insert a group with the id. -/
def Traffic.Tried (t : Traffic desk) (id : String) : Prop :=
  ∃ f ∈ t.flights, ∃ g owner s, .ofCall (.insertGroup g owner) s ∈ f.past ∧ g.id = id

theorem Traffic.Tried.step (h : t.Tried id) (hstep : t.Step t') : t'.Tried id := by
  obtain ⟨f, hf, g, owner, s, hins, hid⟩ := h
  obtain ⟨f', hf', hins'⟩ := hstep.exists_past hf hins
  exact ⟨f', hf', g, owner, s, hins', hid⟩

/-- The groups of the store were inserted by requests. -/
theorem Traffic.Reached.tried (ht : t.Reached) (h : t.store.groups.contains id) : t.Tried id := by
  induction ht with
  | refl => cases h
  | @tail u v hu hstep ih =>
      have hslugs : u.store.SlugsKept := (Traffic.Reached.kept hu).1.slugs
      by_cases hbefore : u.store.groups.contains id
      · exact (ih hbefore).step hstep
      · rcases hstep.store_cases with hsame | ⟨-, -, c, -, -, hstore, f, hf, hasked⟩
        · exact absurd (hsame ▸ h) hbefore
        · rw [hstore] at h
          rcases Memory.inserted_of_contains hslugs h with hthere | ⟨g, owner, rfl, rfl⟩
          · exact absurd hthere hbefore
          · exact ⟨f, hf, g, owner, u.store, hasked, rfl⟩

/-- **A group that is gone is not inserted again**, if ids are given out once. -/
theorem Traffic.Step.not_contains (hstep : t.Step t') (ht : t.Reached) (hids : t.groupIds.Nodup)
    (htried : t.Tried id) (hgone : ¬ t.store.groups.contains id) :
    ¬ t'.store.groups.contains id := by
  intro hback
  have hslugs : t.store.SlugsKept := ht.kept.1.slugs
  rcases hstep.store_cases with hsame | ⟨f, hf, c, next, hrest, hstore, -⟩
  · exact hgone (hsame ▸ hback)
  · rw [hstore] at hback
    rcases Memory.inserted_of_contains hslugs hback with hthere | ⟨g, owner, rfl, rfl⟩
    · exact hgone hthere
    · -- The request that inserts the group now was given its id, and so was the one that has
      -- tried before; hence they are one request, which has not tried anything yet.
      have hkeeps := (ht.asks f hf).2
      rw [hrest] at hkeeps
      obtain ⟨hmine, hnothing⟩ := hkeeps.1.first
      obtain ⟨f', hf', g', owner', s', hins, hid⟩ := htried
      have hissued : g.id ∈ f'.request.groupIds f'.past := hid ▸ ht.groupId_of_inserted hf' hins
      rw [Traffic.eq_of_groupId hids hf' hf hissued hmine] at hins
      exact hnothing g' owner' s' hins

theorem Traffic.Reached.not_contains_later (ht : t.Reached)
    (hlater : Relation.ReflTransGen Traffic.Step t t') (hids : t'.groupIds.Nodup)
    (htried : t.Tried id) (hgone : ¬ t.store.groups.contains id) :
    t'.Tried id ∧ ¬ t'.store.groups.contains id := by
  induction hlater with
  | refl => exact ⟨htried, hgone⟩
  | tail hbefore hstep ih =>
      have hids' := hids.sublist hstep.groupIds_sublist
      obtain ⟨htried', hgone'⟩ := ih hids'
      exact ⟨htried'.step hstep, hstep.not_contains (ht.trans hbefore) hids' htried' hgone'⟩

/-- A group that a request has deleted was inserted before, and is gone. -/
theorem Traffic.Reached.deleted (ht : t.Reached) (hids : t.groupIds.Nodup) {f : Flight desk}
    (hf : f ∈ t.flights) {s : Memory} (hdel : .ofCall (.deleteGroup id) s ∈ f.past)
    (hthere : s.groups.contains id) : t.Tried id ∧ ¬ t.store.groups.contains id := by
  induction ht generalizing f with
  | refl => cases hf
  | @tail u v hu hstep ih =>
      have hids' := hids.sublist hstep.groupIds_sublist
      rcases hstep.past_cases hf hdel with ⟨f', hf', hold⟩ | ⟨hbefore, hafter⟩
      · obtain ⟨htried, hgone⟩ := ih hids' hf' hold
        exact ⟨htried.step hstep, hstep.not_contains hu hids' htried hgone⟩
      · obtain rfl : s = u.store := hbefore
        refine ⟨Traffic.Tried.step (Traffic.Reached.tried hu hthere) hstep, ?_⟩
        rw [← hafter]
        exact Memory.not_contains_deleteGroup u.store id

/-- **Deletion is final.**  Once a group has been deleted, no later store has a group, an entry or a
membership with its id, whatever was on its way and whatever comes, as long as ids are given out
once.  And whoever makes a group, under whatever slug, finds itself its only member, so that no role
is left over from a group that was there before. -/
theorem deleted_groups_stay_deleted (ht : t.Reached) {f : Flight desk} (hf : f ∈ t.flights)
    {groupId : String} {s : Memory} (hdel : .ofCall (.deleteGroup groupId) s ∈ f.past)
    (hthere : s.groups.contains groupId) (hlater : Relation.ReflTransGen Traffic.Step t t')
    (hids : t'.groupIds.Nodup) :
    (∀ k g, t'.store.groups.get? k = some g → k ≠ groupId ∧ g.id ≠ groupId) ∧
    (∀ k n, t'.store.namespaces.get? k = some n → n.groupId ≠ some groupId) ∧
    (∀ k m, t'.store.members.get? k = some m → m.groupId ≠ groupId) ∧
    ∀ f' ∈ t'.flights, ∀ (g : Group) (owner : Member) (s' : Memory),
      .ofCall (.insertGroup g owner) s' ∈ f'.past →
      (Memory.answer (.insertGroup g owner) s').1 = .ok () →
      ∃ c draft u time, f'.request = .createGroup c draft ∧ c.id = some u ∧
        g = .ofDraft draft g.id u time ∧
        let made := (Memory.answer (.insertGroup g owner) s').2
        made.groups.get? g.id = some g ∧
        (∀ k m, made.members.get? k = some m ∧ m.groupId = g.id ↔
          k = Member.idOf g.id u ∧ m = .new g.id u .owner time) ∧
        ∀ v role, made.HasRole v g.id role ↔ v = u ∧ role = .owner := by
  have ht' : t'.Reached := ht.trans hlater
  have hkept : t'.store.Kept := ht'.kept.1
  have hgone : ¬ t'.store.groups.contains groupId := by
    obtain ⟨htried, hgone⟩ :=
      ht.deleted (hids.sublist (Traffic.groupIds_sublist hlater)) hf hdel hthere
    exact (ht.not_contains_later hlater hids htried hgone).2
  obtain ⟨hentries, hrows⟩ := hkept.nothing_of_not_contains hgone
  refine ⟨fun k g hg => ?_, hentries, hrows, fun f' hf' g owner s' hins hok => ?_⟩
  · have hk : k ≠ groupId := by
      rintro rfl
      exact hgone (Table.contains_iff.mpr ⟨g, hg⟩)
    exact ⟨hk, hkept.slugs.groups hg ▸ hk⟩
  · obtain ⟨-, -, (hs' : s'.Kept), -⟩ := (ht'.kept.2 f' hf').1.of_mem hins
    obtain ⟨_, -, -, -, hasked⟩ := (ht'.asks f' hf').1.of_mem hins
    obtain ⟨c, draft, u, time, _, _, hr, hu, -, hg, rfl⟩ := Request.Asks.newGroup hasked
    refine ⟨c, draft, u, time, hr, hu, hg, ?_⟩
    cases hmade : s'.insertGroup g (.new g.id u .owner time) with
    | error fault =>
        simp only [Memory.answer, hmade] at hok
        cases hok
    | ok made =>
        have hrow := hs'.rows_of_insertGroup (Store.madeFor_new ..) hmade
        simp only [Memory.answer, hmade, Memory.written]
        refine ⟨?_, hrow, fun v role => ?_⟩
        · rw [(Memory.insertGroup_eq_ok hmade).2.1, Table.get?_insert, if_pos rfl]
        · constructor
          · rintro ⟨k, m, hm, hgroup, rfl, rfl⟩
            obtain ⟨-, rfl⟩ := (hrow k m).mp ⟨hm, hgroup⟩
            exact ⟨rfl, rfl⟩
          · rintro ⟨rfl, rfl⟩
            obtain ⟨hm, hgroup⟩ := (hrow _ _).mpr ⟨rfl, rfl⟩
            exact ⟨_, _, hm, hgroup, rfl, rfl⟩

/-- A patch that has seen the group comes after its deletion, and so does a new group of the same
slug. -/
theorem patch_and_namesake_after_deletion :
    let ada : Caller := { id := some "ada" }
    let bob : Caller := { id := some "bob" }
    let requests : List Request := [.createGroup ada ⟨"Lab", "lab", none⟩,
      .updateGroup ada "lab" { name := some "Laboratory" }, .deleteGroup ada "lab",
      .createGroup bob ⟨"Lab", "lab", none⟩]
    let afterwards : Supply := ⟨fun n => n + 8, fun n => Ulid.text (n + 8) 0⟩
    let t := Traffic.play .counting [0, 0, 0, 1, 1, 2, 2, 2] ⟨{}, requests.map (.start (D := desk))⟩
    let t' := Traffic.play afterwards [1, 1, 3, 3, 3] t
    let insertion : Call := .insertGroup (.ofDraft ⟨"Lab", "lab", none⟩ (Ulid.text 11 0) "bob" 10)
      (.new (Ulid.text 11 0) "bob" .owner 10)
    t'.store.groups.get? (Ulid.text 1 0) = none ∧
      ∃ f ∈ t'.flights, ∃ s, .ofCall insertion s ∈ f.past ∧ ∀ v role,
        (Memory.answer insertion s).2.HasRole v (Ulid.text 11 0) role ↔
          v = "bob" ∧ role = .owner := by
  intro ada bob requests afterwards t t' insertion
  have hreached : t.Reached :=
    (Traffic.reached_arrivals (D := desk) requests).trans
      (Traffic.steps_play Supply.shaped_counting _ _)
  have hafterwards : afterwards.Shaped := fun n => Ulid.shaped_text (n + 8) 0
  have hlater : Relation.ReflTransGen Traffic.Step t t' := Traffic.steps_play hafterwards _ _
  obtain ⟨f, hf, s, hdel, hthere⟩ : ∃ f ∈ t.flights, ∃ s : Memory,
      .ofCall (.deleteGroup (Ulid.text 1 0)) s ∈ f.past ∧ s.groups.contains (Ulid.text 1 0) :=
    ⟨_, .tail _ (.tail _ (.head _)), _, .head _, by decide +kernel +zetaReduce⟩
  obtain ⟨f', hf', hrequest, s', hins, hok⟩ : ∃ f ∈ t'.flights,
      f.request = .createGroup bob ⟨"Lab", "lab", none⟩ ∧
        ∃ s, .ofCall insertion s ∈ f.past ∧ (Memory.answer insertion s).1.isOk :=
    ⟨_, .tail _ (.tail _ (.tail _ (.head _))), rfl, _, .head _, by decide +kernel +zetaReduce⟩
  obtain ⟨hgone, -, -, hnew⟩ := deleted_groups_stay_deleted hreached hf hdel hthere hlater
    (by decide +kernel +zetaReduce)
  constructor
  · cases hget : t'.store.groups.get? (Ulid.text 1 0) with
    | none => rfl
    | some g => exact absurd rfl (hgone _ g hget).1
  · have hok : (Memory.answer insertion s').1 = .ok () := by
      cases h : (Memory.answer insertion s').1 with
      | ok _ => rfl
      | error fault =>
        rw [h] at hok
        cases hok
    obtain ⟨c, draft, u, time, hc, hu, -, hmade⟩ := hnew f' hf' _ _ s' hins hok
    rw [hrequest] at hc
    cases hc
    cases hu
    exact ⟨f', hf', s', hins, hmade.2.2⟩

end Service

end Roster
