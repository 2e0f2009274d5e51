/-
# One patch alone

What the service answers to a patch, it has built itself, out of the group that it has
seen; what the store keeps is the stored group with some fields of that answer, and its
entry under another slug.  With nobody in between the two agree, because the group that
was seen is the one that is stored: the answer takes the place of the group
(`alone_patch_of_open`), and everything that can be looked up afterwards follows from that
one store.
-/
import Roster.Proofs.Service.Patches
import Roster.Proofs.Service.Resolution

namespace Roster

/-- The group that a patch makes of a group at some time. -/
def Group.Patch.made (p : Group.Patch) (g : Group) (now : Int) : Group :=
  { p.apply g with updateTime := now }

namespace Service

open Store (Memory)
open Store.Memory (SlugsKept)

/-- The request passes every check but the one of the new slug: the patch names a field, the slug is
that of the group, and the caller is an administrator or at least an editor of the group. -/
structure MayPatch (s : Memory) (c : Caller) (slug : String) (p : Group.Patch) (g : Group) :
    Prop where
  names : ¬ p.isEmpty
  group : s.Has (.group g)
  under : g.slug = slug
  right : ∃ id, c.id = some id ∧
    (c.isAdmin ∨ ∃ m, s.findMember g.id id = some m ∧ Role.editor ≤ m.role)

variable {s : Memory} {σ : Supply} {w : World} {c : Caller} {slug : String} {p : Group.Patch}
  {g old : Group}

/-! ## What is written -/

/-- A patch that passes the checks comes to its write with the store as it was. -/
theorem alone_patch (hs : s.SlugsKept) (h : MayPatch s c slug p old) (σ : Supply) :
    ∃ w : World, w.store = s ∧ alone (Groups.update c slug p) s σ =
      (call (.updateGroup (p.made old (σ.times 0))) >>= fun _ =>
        .done (p.made old (σ.times 0))).run World.answer w := by
  obtain ⟨id, hid, hright⟩ := h.right
  have hfound : s.findGroup slug = some old := hs.findGroup_eq_some_iff.mpr ⟨h.group, h.under⟩
  obtain ⟨w, hstore, hsupply, hrun⟩ := run_requireRole (β := Group)
    (w := World.after (.findGroup slug) ⟨s, σ, []⟩) hid hright
  refine ⟨(w.answer .clock).2, hstore, ?_⟩
  unfold alone Groups.update
  rw [if_neg h.names, requireLogin, hid, Plan.done_bind, run_requireGroup hfound, hrun, run_now,
    hsupply]
  rfl

/-- The group that is written meets the one that the patch was applied to. -/
theorem updateGroup_made (hs : s.SlugsKept) (hold : s.Has (.group old)) (now : Int) :
    s.updateGroup (p.made old now) =
      if old.slug ≠ p.slug.getD old.slug ∧ s.namespaces.contains (p.slug.getD old.slug) then
        .error (.slugTaken (p.slug.getD old.slug))
      else .ok (s.replaceGroup old (p.made old now)) :=
  Memory.updateGroup_eq_replaceGroup (g := p.made old now) hs hold

/-- The slug that the patch asks for is the group's own, or nobody's. -/
def Open (s : Memory) (p : Group.Patch) (old : Group) : Prop :=
  p.slug.getD old.slug = old.slug ∨ s.namespaces.get? (p.slug.getD old.slug) = none

theorem not_taken_iff : ¬ (old.slug ≠ p.slug.getD old.slug ∧
    s.namespaces.contains (p.slug.getD old.slug)) ↔ Open s p old := by
  rw [Open, not_and_or, not_not, Table.contains, Option.not_isSome_iff_eq_none, eq_comm]

/-- **The patched group takes the place of the old one**, if its slug is open to it. -/
theorem alone_patch_of_open (hs : s.SlugsKept) (h : MayPatch s c slug p old) (hopen : Open s p old)
    (σ : Supply) : ∃ w, alone (Groups.update c slug p) s σ = (.ok (p.made old (σ.times 0)), w) ∧
      w.store = s.replaceGroup old (p.made old (σ.times 0)) := by
  obtain ⟨w, hstore, hrun⟩ := alone_patch hs h σ
  have hwrite : Memory.answer (.updateGroup (p.made old (σ.times 0))) w.store =
      (.ok (), s.replaceGroup old (p.made old (σ.times 0))) := by
    rw [Memory.answer, hstore, updateGroup_made hs h.group, if_neg (not_taken_iff.mpr hopen)]
    rfl
  refine ⟨_, hrun.trans (run_call_of_ok (congrArg Prod.fst hwrite) _), ?_⟩
  exact congrArg Prod.snd hwrite

/-- A patch for the slug of another party is refused. -/
theorem alone_patch_of_not_open (hs : s.SlugsKept) (h : MayPatch s c slug p old)
    (hclosed : ¬ Open s p old) (σ : Supply) :
    ∃ w, alone (Groups.update c slug p) s σ =
      (.error (.slugTaken (p.slug.getD old.slug)), w) ∧ w.store = s := by
  obtain ⟨w, hstore, hrun⟩ := alone_patch hs h σ
  have hwrite : Memory.answer (.updateGroup (p.made old (σ.times 0))) w.store =
      (.error (.slugTaken (p.slug.getD old.slug)), s) := by
    rw [Memory.answer, hstore, updateGroup_made hs h.group,
      if_pos (Classical.not_not.mp (mt not_taken_iff.mp hclosed))]
    rfl
  refine ⟨_, hrun.trans (run_call_of_error (congrArg Prod.fst hwrite) _), ?_⟩
  exact congrArg Prod.snd hwrite

/-- Any other patch fails, and not because of its slug. -/
theorem alone_patch_of_not_mayPatch (hs : s.SlugsKept) (hno : ∀ g, ¬ MayPatch s c slug p g)
    (σ : Supply) : ∃ f, (alone (Groups.update c slug p) s σ).1 = .error f ∧ f.kind ≠ .conflict := by
  unfold alone Groups.update
  split
  · exact ⟨.emptyPatch, rfl, fun h => by cases h⟩
  · next hnames =>
      cases hid : c.id with
      | none =>
          rw [requireLogin, hid]
          exact ⟨.loginRequired, rfl, fun h => by cases h⟩
      | some id =>
          rw [requireLogin, hid, Plan.done_bind]
          cases hfound : s.findGroup slug with
          | none =>
              rw [requireGroup, Plan.bind_assoc, run_call]
              simp only [Memory.answer, hfound]
              exact ⟨.groupUnknown slug, rfl, fun h => by cases h⟩
          | some g =>
              obtain ⟨hgroup, hunder⟩ := hs.findGroup_eq_some_iff.mp hfound
              have hright : ¬ (c.isAdmin ∨
                  ∃ m, s.findMember g.id id = some m ∧ Role.editor ≤ m.role) :=
                fun hright => hno g ⟨hnames, hgroup, hunder, id, hid, hright⟩
              obtain ⟨w, -, -, hrun⟩ := run_requireRole_of_not (β := Group)
                (w := World.after (.findGroup slug) ⟨s, σ, []⟩) hid hright
              rw [run_requireGroup hfound, hrun]
              exact ⟨.roleRequired .editor g.slug, rfl, fun h => by cases h⟩

/-- A patch that ends well had passed the checks, and its slug was open to the group. -/
theorem mayPatch_of_alone (hs : s.SlugsKept)
    (h : alone (Groups.update c slug p) s σ = (.ok g, w)) :
    ∃ old, MayPatch s c slug p old ∧ Open s p old ∧ g = p.made old (σ.times 0) ∧
      w.store = s.replaceGroup old g := by
  by_cases hmay : ∃ old, MayPatch s c slug p old
  · obtain ⟨old, hmay⟩ := hmay
    by_cases hopen : Open s p old
    · obtain ⟨w', hrun, hstore⟩ := alone_patch_of_open hs hmay hopen σ
      cases h.symm.trans hrun
      exact ⟨old, hmay, hopen, rfl, hstore⟩
    · obtain ⟨w', hrun, -⟩ := alone_patch_of_not_open hs hmay hopen σ
      cases h.symm.trans hrun
  · obtain ⟨f, hf, -⟩ := alone_patch_of_not_mayPatch hs (not_exists.mp hmay) σ
    rw [h] at hf
    cases hf

/-- A slug that a group has given up has no entry any more. -/
theorem namespaces_of_renamed (hs : s.SlugsKept)
    (h : alone (Groups.update c slug p) s σ = (.ok g, w)) (hslug : g.slug ≠ slug) :
    w.store.namespaces.get? slug = none := by
  obtain ⟨old, hmay, -, -, hstore⟩ := mayPatch_of_alone hs h
  rw [hstore, Memory.namespaces_replaceGroup hslug.symm, if_pos hmay.under.symm]

/-! ## What is found -/

/-- **A patch that ends well is stored as it was answered**, in any store that traffic can reach.
The group is found under its slug, by both ways; it has what the patch names, where an empty
description is none, and the rest as it was before; a slug that it has given up leads nowhere; and
no other group, no membership, no user and no other entry has changed. -/
theorem patched_group_found {D : Desk} {t : Traffic D} (ht : t.Reached)
    (h : alone (Groups.update c slug p) t.store σ = (.ok g, w)) :
    ∃ old, t.store.Has (.group old) ∧ old.slug = slug ∧
      (g.id = old.id ∧ g.createdBy = old.createdBy ∧ g.createTime = old.createTime) ∧
      g.name = p.name.getD old.name ∧ g.slug = p.slug.getD old.slug ∧
      (p.description = none → g.description = old.description) ∧
      (p.description = some "" → g.description = none) ∧
      (∀ text, p.description = some text → text ≠ "" → g.description = some text) ∧
      g.updateTime = σ.times 0 ∧
      (∀ σ', (alone (Groups.get g.slug) w.store σ').1 = .ok g ∧
        (alone (Namespaces.get g.slug) w.store σ').1 = .ok
          { id := g.id, kind := .group, name := some g.name, slug := g.slug,
            createdBy := g.createdBy, createTime := g.createTime } ∧
        (g.slug ≠ slug →
          (alone (Groups.get slug) w.store σ').1 = .error (.groupUnknown slug) ∧
          (alone (Namespaces.get slug) w.store σ').1 = .error (.namespaceUnknown slug))) ∧
      (∀ id, id ≠ g.id → w.store.groups.get? id = t.store.groups.get? id) ∧
      w.store.members = t.store.members ∧ w.store.users = t.store.users ∧
      ∀ k, k ≠ slug → k ≠ g.slug → w.store.namespaces.get? k = t.store.namespaces.get? k := by
  have hs : t.store.SlugsKept := ht.slugsKept
  obtain ⟨old, hmay, -, hmade, hstore⟩ := mayPatch_of_alone hs h
  have hs' : w.store.SlugsKept := slugsKept_of_alone hs h
  have hnow : w.store.Has (.group g) := hstore ▸ Memory.has_replaceGroup t.store old g
  refine ⟨old, hmay.group, hmay.under, ?_, ?_, ?_, ?_, ?_, ?_, ?_, fun σ' => ⟨?_, ?_, fun hslug => ?_⟩,
    fun id hid => ?_, ?_, ?_, fun k hk hk' => ?_⟩
  · rw [hmade]
    exact ⟨rfl, rfl, rfl⟩
  · rw [hmade]
    rfl
  · rw [hmade]
    rfl
  · intro hnone
    simp [hmade, Group.Patch.made, Group.Patch.apply, hnone]
  · intro hempty
    simp [hmade, Group.Patch.made, Group.Patch.apply, Group.describe, hempty]
  · intro text htext hne
    simp [hmade, Group.Patch.made, Group.Patch.apply, Group.describe, htext, hne]
  · rw [hmade]
    rfl
  · exact run_getGroup (w := ⟨w.store, σ', []⟩) hs' hnow
  · exact run_getNamespace (w := ⟨w.store, σ', []⟩) hs' hnow
  · have hnone := namespaces_of_renamed hs h hslug
    exact ⟨run_getGroup_of_none (w := ⟨w.store, σ', []⟩) hs' hnone,
      run_getNamespace_of_none (w := ⟨w.store, σ', []⟩) hnone⟩
  · rw [hstore, Memory.groups_replaceGroup hid]
  · rw [hstore]
    rfl
  · rw [hstore]
    rfl
  · rw [hstore, Memory.namespaces_replaceGroup hk', if_neg (hmay.under ▸ hk)]

/-- A group takes another slug and loses its description. -/
theorem renamed_group_found :
    let ada : Caller := { id := some "ada" }
    let lab := (alone (Groups.create ada ⟨"Lab", "lab", some "where we work"⟩) {} .counting).2
    let patch : Group.Patch := { slug := some "den", description := some "" }
    ∃ g w, alone (Groups.update ada "lab" patch) lab.store lab.supply = (.ok g, w) ∧
      g.slug = "den" ∧ g.name = "Lab" ∧ g.description = none ∧
      (alone (Groups.get "den") w.store w.supply).1 = .ok g ∧
      (alone (Groups.get "lab") w.store w.supply).1 = .error (.groupUnknown "lab") ∧
      (alone (Namespaces.get "lab") w.store w.supply).1 = .error (.namespaceUnknown "lab") := by
  intro ada lab patch
  have hreached : (⟨lab.store, _⟩ : Traffic desk).Reached :=
    Traffic.Reached.alone (D := desk) .refl
      (.createGroup ada ⟨"Lab", "lab", some "where we work"⟩) Supply.shaped_counting
  obtain ⟨g, w, h, hslug, hname⟩ : ∃ g w,
      alone (Groups.update ada "lab" patch) lab.store lab.supply = (.ok g, w) ∧
        g.slug = "den" ∧ g.name = "Lab" :=
    ⟨_, _, by rfl, by rfl, by rfl⟩
  obtain ⟨old, -, -, -, -, -, -, hempty, -, -, hfound, -⟩ := patched_group_found hreached h
  obtain ⟨hget, -, hgone⟩ := hfound w.supply
  have hmoved : g.slug ≠ "lab" := by
    rw [hslug]
    decide
  exact ⟨g, w, h, hslug, hname, hempty rfl, hslug ▸ hget, hgone hmoved⟩

end Service

end Roster
