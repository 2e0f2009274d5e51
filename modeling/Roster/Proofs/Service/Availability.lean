/-
# Who gets a slug

Whether a slug is to be had is read off the table of namespaces alone, while the slugs
themselves stand in the groups and the users.  The entries are exactly those of groups and
users (`SlugsKept`), so the table is right in both directions: a slug that somebody has is
refused to everybody else, and one that nobody has is given to whoever asks for it, be it
for a new group or for one that is there.

A slug becomes free again when its group takes another one or is deleted.  That is seen
from the entries of the one store that is left, and nothing else has to be remembered.
-/
import Roster.Proofs.Service.Changes

namespace Roster.Service

open Store (Memory)
open Store.Memory (SlugsKept)

variable {s : Memory} {σ : Supply} {w : World} {c : Caller} {slug : String} {p : Group.Patch}
  {g : Group}

/-- Whoever asks for the slug gets it: for a new group under an id that is not in use, and for a
group that the caller may patch. -/
structure Available (s : Memory) (slug : String) : Prop where
  create : ∀ {c : Caller} {u : String} {d : Group.Draft} {σ : Supply}, c.id = some u →
    d.slug = slug → s.groups.get? (σ.ids 0) = none →
      ∃ g, (alone (Groups.create c d) s σ).1 = .ok g ∧ g.slug = slug
  patch : ∀ {c : Caller} {old : String} {p : Group.Patch} {g : Group} {σ : Supply},
    MayPatch s c old p g → p.slug = some slug →
      ∃ g', (alone (Groups.update c old p) s σ).1 = .ok g' ∧ g'.id = g.id ∧ g'.slug = slug

/-- Whoever asks for the slug is told that it is taken, unless it asks for the group that has it. -/
structure Refused (s : Memory) (slug : String) : Prop where
  create : ∀ {c : Caller} {u : String} {d : Group.Draft} {σ : Supply}, c.id = some u →
    d.slug = slug → (alone (Groups.create c d) s σ).1 = .error (.slugTaken slug)
  patch : ∀ {c : Caller} {old : String} {p : Group.Patch} {g : Group} {σ : Supply},
    MayPatch s c old p g → p.slug = some slug → slug ≠ g.slug →
      (alone (Groups.update c old p) s σ).1 = .error (.slugTaken slug)

/-! ## Free slugs and others -/

/-- The request for a new group comes to its write with the store as it was. -/
theorem alone_create {u : String} (hid : c.id = some u) (d : Group.Draft) (s : Memory) (σ : Supply) :
    let g := Group.ofDraft d (σ.ids 0) u (σ.times 0)
    ∃ w : World, w.store = s ∧ alone (Groups.create c d) s σ =
      (call (.insertGroup g (.new g.id u .owner (σ.times 0))) >>= fun _ => .done g).run
        World.answer w := by
  refine ⟨((World.mk s σ []).answer .clock).2.answer .freshId |>.2, rfl, ?_⟩
  unfold alone Groups.create requireLogin
  rw [hid, Plan.done_bind, run_now, run_freshId]
  rfl

/-- A slug without an entry is given to whoever asks for it. -/
theorem available_of_none (hs : s.SlugsKept) (hn : s.namespaces.get? slug = none) :
    Available s slug where
  create {c u d σ} hid hslug hnew := by
    obtain ⟨w, hstore, hrun⟩ := alone_create hid d s σ
    let g := Group.ofDraft d (σ.ids 0) u (σ.times 0)
    have hgslug : g.slug = slug := hslug
    have hfree : s.namespaces.get? g.slug = none := by rw [hgslug, hn]
    have hwrite : ∀ owner, (Memory.answer (.insertGroup g owner) w.store).1 = .ok () := by
      intro owner
      rw [hstore, Memory.answer_insertGroup_of_new hfree hnew]
    exact ⟨g, congrArg Prod.fst (hrun.trans (run_call_of_ok (hwrite _) _)), hgslug⟩
  patch {c old p g σ} hmay hslug := by
    have hopen : Open s p g := .inr (by rwa [hslug])
    obtain ⟨w, hrun, -⟩ := alone_patch_of_open hs hmay hopen σ
    exact ⟨_, congrArg Prod.fst hrun, rfl, congrArg (Option.getD · g.slug) hslug⟩

/-- A slug that somebody has is refused. -/
theorem refused_of_has (hs : s.SlugsKept) {q : Store.Party} (hq : s.Has q) (hslug : q.slug = slug) :
    Refused s slug where
  create {c u d σ} hid hd := by
    obtain ⟨w, hstore, hrun⟩ := alone_create hid d s σ
    let g := Group.ofDraft d (σ.ids 0) u (σ.times 0)
    have hgslug : g.slug = slug := hd
    have hentry : s.namespaces.get? g.slug = some q.entry := by
      rw [hgslug, ← hslug, hs.entry_of_party hq]
    have hwrite : ∀ owner, (Memory.answer (.insertGroup g owner) w.store).1 =
        .error (.slugTaken slug) := by
      intro owner
      rw [hstore, Memory.answer_insertGroup_of_taken (Table.contains_iff.mpr ⟨_, hentry⟩),
        hgslug]
    exact congrArg Prod.fst (hrun.trans (run_call_of_error (hwrite _) _))
  patch {c old p g σ} hmay hp hne := by
    have hclosed : ¬ Open s p g := by
      rw [Open, hp]
      rintro (hown | hnone)
      · exact hne hown
      · rw [Option.getD_some, ← hslug, hs.entry_of_party hq] at hnone
        cases hnone
    obtain ⟨w, hrun, -⟩ := alone_patch_of_not_open hs hmay hclosed σ
    rw [hrun, hp]
    rfl

/-! ## Deleting a group alone -/

/-- A deletion that ends well has taken the group away, if there was one. -/
theorem store_of_delete (hs : s.SlugsKept) (hg : s.Has (.group g))
    (h : alone (Groups.delete c g.slug) s σ = (.ok (), w)) :
    w.store = (s.deleteGroup g.id).2 := by
  have hfound : s.findGroup g.slug = some g := hs.findGroup_eq_some_iff.mpr ⟨hg, rfl⟩
  unfold alone Groups.delete at h
  cases hid : c.id with
  | none =>
      rw [requireLogin, hid] at h
      cases h
  | some id =>
      rw [requireLogin, hid, Plan.done_bind, run_call] at h
      simp only [Memory.answer, hfound] at h
      by_cases hright : c.isAdmin ∨ ∃ m, s.findMember g.id id = some m ∧ Role.owner ≤ m.role
      · obtain ⟨w', hstore, -, hrun⟩ := run_requireRole (β := Unit)
          (w := World.after (.findGroup g.slug) ⟨s, σ, []⟩) hid hright
        have hstore' : w'.store = s := hstore
        rw [hrun, run_call] at h
        simp only [Memory.answer, hstore'] at h
        cases h
        rw [World.after_store, hstore']
        rfl
      · obtain ⟨w', -, -, hrun⟩ := run_requireRole_of_not (β := Unit)
          (w := World.after (.findGroup g.slug) ⟨s, σ, []⟩) hid hright
        rw [hrun] at h
        cases h

/-- **A slug is given to one who asks for it exactly if nobody else has it**, in any store that
traffic can reach: for a new group, and for a patch that passes the other checks, which is one that
does not fail before.  A group may ask for the slug that it has.  A slug that its group gives up, or
that was the slug of a group that is deleted, is to be had at once. -/
theorem slugs_had_by_one_party {D : Desk} {t : Traffic D} (ht : t.Reached) :
    (∀ slug, (∀ q, t.store.Has q → q.slug ≠ slug) → Available t.store slug) ∧
    (∀ slug, (∃ q, t.store.Has q ∧ q.slug = slug) → Refused t.store slug) ∧
    (∀ {c slug p g} σ, MayPatch t.store c slug p g → p.slug.getD g.slug = g.slug →
      ∃ g', (alone (Groups.update c slug p) t.store σ).1 = .ok g' ∧ g'.id = g.id ∧
        g'.slug = g.slug) ∧
    (∀ {c slug p} σ, (∀ g, ¬ MayPatch t.store c slug p g) →
      ∃ f, (alone (Groups.update c slug p) t.store σ).1 = .error f ∧ f.kind ≠ .conflict) ∧
    (∀ {c slug p σ g w}, alone (Groups.update c slug p) t.store σ = (.ok g, w) → g.slug ≠ slug →
      Available w.store slug) ∧
    (∀ {c g σ w}, t.store.Has (.group g) →
      alone (Groups.delete c g.slug) t.store σ = (.ok (), w) → Available w.store g.slug) ∧
    ∀ slug, (Fault.slugTaken slug).kind = .conflict := by
  have hs : t.store.SlugsKept := ht.slugsKept
  refine ⟨fun slug hfree => ?_, fun slug hhas => ?_, fun σ hmay hown => ?_,
    fun σ hno => alone_patch_of_not_mayPatch hs hno σ, fun {c slug p σ g w} h hslug => ?_,
    fun {c g σ w} hg h => ?_, fun _ => rfl⟩
  · exact available_of_none hs (hs.free_iff.mp hfree)
  · obtain ⟨q, hq, hslug⟩ := hhas
    exact refused_of_has hs hq hslug
  · obtain ⟨w, hrun, -⟩ := alone_patch_of_open hs hmay (.inl hown) σ
    exact ⟨_, congrArg Prod.fst hrun, rfl, hown⟩
  · exact available_of_none (slugsKept_of_alone hs h) (namespaces_of_renamed hs h hslug)
  · refine available_of_none (slugsKept_of_alone hs h) ?_
    rw [store_of_delete hs hg h]
    exact Memory.namespaces_deleteGroup hg

/-- A slug is refused as long as a group has it, and given to another caller as soon as that group
has moved. -/
theorem slug_given_after_move :
    let ada : Caller := { id := some "ada" }
    let bob : Caller := { id := some "bob" }
    let lab := (alone (Groups.create ada ⟨"Lab", "lab", none⟩) {} .counting).2
    (alone (Groups.create bob ⟨"Laboratory", "lab", none⟩) lab.store lab.supply).1 =
      .error (.slugTaken "lab") ∧
    ∃ g w, alone (Groups.update ada "lab" { slug := some "den" }) lab.store lab.supply =
        (.ok g, w) ∧ g.slug ≠ "lab" ∧ w.store.groups.get? (w.supply.ids 0) = none ∧
      ∃ g', (alone (Groups.create bob ⟨"Laboratory", "lab", none⟩) w.store w.supply).1 = .ok g' ∧
        g'.slug = "lab" := by
  intro ada bob lab
  have hreached : (⟨lab.store, _⟩ : Traffic desk).Reached :=
    Traffic.Reached.alone (D := desk) .refl (.createGroup ada ⟨"Lab", "lab", none⟩)
      Supply.shaped_counting
  obtain ⟨-, hrefused, -, -, hmoved, -⟩ := slugs_had_by_one_party hreached
  have hparty : lab.store.Has (.group (.ofDraft ⟨"Lab", "lab", none⟩ (Ulid.text 0 0) "ada" 0)) := by
    rfl
  obtain ⟨g, w, h, hslug⟩ : ∃ g w,
      alone (Groups.update ada "lab" { slug := some "den" }) lab.store lab.supply = (.ok g, w) ∧
        g.slug = "den" := ⟨_, _, by rfl, by rfl⟩
  have hunused : (let w := (alone (Groups.update ada "lab" { slug := some "den" }) lab.store
      lab.supply).2
      w.store.groups.get? (w.supply.ids 0)).isNone := by
    decide +kernel
  rw [h] at hunused
  have hnew : w.store.groups.get? (w.supply.ids 0) = none := Option.isNone_iff_eq_none.mp hunused
  have hne : g.slug ≠ "lab" := by
    rw [hslug]
    decide
  exact ⟨(hrefused "lab" ⟨_, hparty, rfl⟩).create (u := "bob") rfl rfl, g, w, h, hne, hnew,
    (hmoved h hne).create (u := "bob") rfl rfl hnew⟩

end Roster.Service
