/-
# What a slug leads to

A slug is resolved in two steps: its entry says of which kind it is, and then a group is
looked up by the slug, or a user by the id in the entry.  The second step could fail, for
all that the code knows.  It never does, because entries belong to parties (`SlugsKept`),
so what the slug leads to is the party that has it (`run_getNamespace`).

The list of a caller's namespaces shows parties of the store that it leaves
(`has_of_mem_list`).  Hence each of them is found again under its slug, just as it was
shown.
-/
import Roster.Proofs.Service.Listing
import Roster.Proofs.Store.Groups

namespace Roster

/-- A group or a user as it is shown. -/
def Store.Party.view : Store.Party → Namespace.View
  | .group g => g.view
  | .user u => u.view

namespace Service

open Store (Memory Party sortOn groupKey)
open Store.Memory (SlugsKept)

variable {w w' : World} {slug : String}

theorem slugsKept_run {α : Type} {p : Service α} (hs : w.store.SlugsKept) :
    (p.run World.answer w).2.store.SlugsKept :=
  World.store_inv (fun c _ => Memory.answer_slugsKept c) hs

theorem slugsKept_of_alone {α : Type} {p : Service α} {s : Memory} {σ : Supply}
    {o : Except Fault α} (hs : s.SlugsKept) (h : alone p s σ = (o, w)) : w.store.SlugsKept := by
  have hkept : (alone p s σ).2.store.SlugsKept := slugsKept_run (w := ⟨s, σ, []⟩) hs
  rwa [h] at hkept

/-! ## One slug -/

/-- **The slug of a party leads to the party.** -/
theorem run_getNamespace (hs : w.store.SlugsKept) {p : Party} (hp : w.store.Has p) :
    ((Namespaces.get p.slug).run World.answer w).1 = .ok p.view := by
  unfold Namespaces.get
  rw [run_call]
  simp only [Memory.answer, hs.entry_of_party hp]
  cases p with
  | group g =>
      have hfound : w.store.findGroup g.slug = some g := hs.findGroup_eq_some_iff.mpr ⟨hp, rfl⟩
      simp only [Party.slug, Party.entry, Group.namespace, Namespace.ofGroup]
      rw [run_call]
      simp only [World.after, World.answer, Memory.answer, hfound]
      rfl
  | user u =>
      have hfound : w.store.users.get? u.id = some u := hp
      simp only [Party.slug, Party.entry, User.namespace, Namespace.ofUser]
      rw [run_call]
      simp only [World.after, World.answer, Memory.answer, hfound]
      rfl

/-- A slug without an entry leads nowhere. -/
theorem run_getNamespace_of_none (hn : w.store.namespaces.get? slug = none) :
    ((Namespaces.get slug).run World.answer w).1 = .error (.namespaceUnknown slug) := by
  unfold Namespaces.get
  rw [run_call]
  simp only [Memory.answer, hn]
  rfl

/-- A group is found by its slug. -/
theorem run_getGroup (hs : w.store.SlugsKept) {g : Group} (hg : w.store.Has (.group g)) :
    ((Groups.get g.slug).run World.answer w).1 = .ok g := by
  have hfound : w.store.findGroup g.slug = some g := hs.findGroup_eq_some_iff.mpr ⟨hg, rfl⟩
  rw [Groups.get, requireGroup, run_call]
  simp only [Memory.answer, hfound]
  rfl

theorem run_getGroup_of_none (hs : w.store.SlugsKept) (hn : w.store.namespaces.get? slug = none) :
    ((Groups.get slug).run World.answer w).1 = .error (.groupUnknown slug) := by
  rw [Groups.get, requireGroup, run_call]
  simp only [Memory.answer, hs.findGroup_eq_none hn]
  rfl

/-! ## The slugs of a list -/

theorem has_of_mem_pageMemberGroups {s : Memory} (hs : s.SlugsKept) {u : String} {roles : List Role}
    {skip limit : UInt64} {g : Group} (hg : g ∈ s.pageMemberGroups u roles skip limit) :
    s.Has (.group g) := by
  have hsorted : g ∈ sortOn groupKey (s.memberGroups u roles) :=
    List.mem_of_mem_drop (List.mem_of_mem_take hg)
  have hall : g ∈ s.memberGroups u roles := (Store.sortOn_perm _ _).mem_iff.mp hsorted
  exact hs.groups.mem_values_iff.mp (List.mem_filter.mp hall).1

/-- **What a list shows is there**, as it is shown, when the list was answered. -/
theorem has_of_mem_list (hs : w.store.SlugsKept) {c : Caller} {page : Page.Request}
    {minimum : Option Role} {shown : List Namespace.View} {summary : Page.Summary}
    (h : (Namespaces.list c page minimum).run World.answer w = (.ok (shown, summary), w'))
    {view : Namespace.View} (hview : view ∈ shown) :
    ∃ p, w'.store.Has p ∧ p.view = view := by
  unfold Namespaces.list requireLogin at h
  cases hid : c.id with
  | none =>
      rw [hid] at h
      cases h
  | some id =>
      rw [hid, Plan.done_bind] at h
      obtain ⟨own, w₁, hown, h⟩ := Plan.run_bind_eq_ok h
      have hs₁ : ((Users.ensure c).run World.answer w).2.store.SlugsKept := slugsKept_run hs
      rw [hown] at hs₁
      obtain ⟨⟨id', hid', hknown, -⟩, -, -⟩ := settled_of_ensure hs.users hown
      have hparty : w₁.store.Has (.user own) := hs₁.users.get? hknown
      rw [run_call] at h
      simp only [Memory.answer] at h
      generalize Namespaces.groupWindow page = cut at h
      obtain ⟨withOwn, skip, limit⟩ := cut
      dsimp only at h
      -- The two looks at the groups find the store that the registration has left.
      have hshown : ∃ groups : List Group, w'.store = w₁.store ∧
          (∀ g ∈ groups, w₁.store.Has (.group g)) ∧
          shown = (if withOwn then [own.view] else []) ++ groups.map Group.view := by
        by_cases hlimit : limit = 0
        · rw [if_pos hlimit] at h
          cases h
          exact ⟨[], rfl, fun g hg => absurd hg List.not_mem_nil, rfl⟩
        · rw [if_neg hlimit, run_call] at h
          simp only [Memory.answer] at h
          cases h
          exact ⟨_, rfl, fun g hg => has_of_mem_pageMemberGroups hs₁ hg, rfl⟩
      obtain ⟨groups, hstore, hgroups, rfl⟩ := hshown
      rw [hstore]
      rcases List.mem_append.mp hview with hfirst | hrest
      · refine ⟨.user own, hparty, ?_⟩
        split at hfirst
        · exact (List.mem_singleton.mp hfirst).symm
        · cases hfirst
      · obtain ⟨g, hg, rfl⟩ := List.mem_map.mp hrest
        exact ⟨.group g, hgroups g hg, rfl⟩

/-- **A slug leads to whoever has it**, in any store that traffic can reach: to the group or the
user as it is stored now, and nowhere only if there is neither.  A slug with an entry always leads
somewhere.  And what a page of a caller's namespaces shows is found again under its slug in the
store that the page leaves, just as it was shown. -/
theorem slugs_lead_to_parties {D : Desk} {t : Traffic D} (ht : t.Reached) (slug : String)
    (σ : Supply) :
    let answer := (alone (Namespaces.get slug) t.store σ).1
    ((∃ view, answer = .ok view) ↔ ∃ p, t.store.Has p ∧ p.slug = slug) ∧
    (∀ g, t.store.Has (.group g) → g.slug = slug →
      answer = .ok
        { id := g.id, kind := .group, name := some g.name, slug := slug, createdBy := g.createdBy,
          createTime := g.createTime }) ∧
    (∀ u, t.store.Has (.user u) → u.slug = slug →
      let first := Text.trim (u.firstName.getD "")
      let last := Text.trim (u.lastName.getD "")
      let name := if first = "" then if last = "" then none else some last
        else some (if last = "" then first else first ++ " " ++ last)
      answer = .ok
        { id := u.namespaceId, kind := .user, name := name, slug := slug, createdBy := u.id,
          createTime := u.createTime }) ∧
    (∀ f, answer = .error f → f = .namespaceUnknown slug ∧ t.store.namespaces.get? slug = none) ∧
    ∀ (c : Caller) (page : Page.Request) (minimum : Option Role) (shown : List Namespace.View)
      (summary : Page.Summary) (w : World),
      alone (Namespaces.list c page minimum) t.store σ = (.ok (shown, summary), w) →
        ∀ view ∈ shown, ∀ σ', (alone (Namespaces.get view.slug) w.store σ').1 = .ok view := by
  intro answer
  have hs : t.store.SlugsKept := ht.slugsKept
  have hfound : ∀ p, t.store.Has p → p.slug = slug → answer = .ok p.view := by
    rintro p hp rfl
    exact run_getNamespace (w := ⟨t.store, σ, []⟩) hs hp
  have hnone : t.store.namespaces.get? slug = none → answer = .error (.namespaceUnknown slug) :=
    fun hn => run_getNamespace_of_none (w := ⟨t.store, σ, []⟩) hn
  -- An entry has a party, so the answer is the one or the other.
  have hcases : t.store.namespaces.get? slug = none ∨ ∃ p, t.store.Has p ∧ p.slug = slug := by
    cases hn : t.store.namespaces.get? slug with
    | none => exact .inl rfl
    | some n =>
        obtain ⟨p, hp, hslug, -⟩ := hs.party_of_entry hn
        exact .inr ⟨p, hp, hslug⟩
  refine ⟨⟨?_, ?_⟩, ?_, ?_, fun f hf => ?_, ?_⟩
  · rintro ⟨view, hview⟩
    exact hcases.resolve_left fun hn => nomatch hview.symm.trans (hnone hn)
  · rintro ⟨p, hp, hslug⟩
    exact ⟨_, hfound p hp hslug⟩
  · rintro g hg rfl
    exact hfound (.group g) hg rfl
  · rintro u hu rfl first last name
    have hname : fullName u.firstName u.lastName = name := fullName_eq u.firstName u.lastName
    rw [← hname]
    exact hfound (.user u) hu rfl
  · rcases hcases with hn | ⟨p, hp, hslug⟩
    · have hfault := hf.symm.trans (hnone hn)
      exact ⟨Except.error.inj hfault, hn⟩
    · exact nomatch hf.symm.trans (hfound p hp hslug)
  · intro c page minimum shown summary w h view hview σ'
    have hs' : w.store.SlugsKept := slugsKept_of_alone hs h
    obtain ⟨p, hp, rfl⟩ := has_of_mem_list (w := ⟨t.store, σ, []⟩) hs h hview
    have hslug : p.view.slug = p.slug := by cases p <;> rfl
    rw [hslug]
    exact run_getNamespace (w := ⟨w.store, σ', []⟩) hs' hp

/-- A group leads to itself, and its maker is found as the first page of its namespaces shows it. -/
theorem lab_and_maker_found :
    let ada : Caller := { id := some "ada", firstName := some "Ada" }
    let made := (alone (Groups.create ada ⟨"Lab", "lab", none⟩) {} .counting).2
    let page : Page.Request := ⟨1, 1, by decide, by decide, by decide⟩
    (alone (Namespaces.get "lab") made.store made.supply).1 =
      .ok ⟨Ulid.text 0 0, .group, some "Lab", "lab", "ada", 0⟩ ∧
    ∃ view summary w,
      alone (Namespaces.list ada page none) made.store made.supply = (.ok ([view], summary), w) ∧
      view.name = some "Ada" ∧ (alone (Namespaces.get view.slug) w.store w.supply).1 = .ok view := by
  intro ada made page
  have hreached : (⟨made.store, _⟩ : Traffic desk).Reached :=
    Traffic.Reached.alone (D := desk) .refl (.createGroup ada ⟨"Lab", "lab", none⟩)
      Supply.shaped_counting
  obtain ⟨-, hgroup, -, -, hlist⟩ := slugs_lead_to_parties hreached "lab" made.supply
  have hnames : ((alone (Namespaces.list ada page none) made.store made.supply).1.map
      fun answer => answer.1.map (·.name)).toOption = some [some "Ada"] := by
    decide +kernel
  refine ⟨hgroup (.ofDraft ⟨"Lab", "lab", none⟩ (Ulid.text 0 0) "ada" 0) (by rfl) rfl, ?_⟩
  cases h : alone (Namespaces.list ada page none) made.store made.supply with
  | mk o w =>
      rw [h] at hnames
      cases o with
      | error f => cases hnames
      | ok answer =>
          obtain ⟨shown, summary⟩ := answer
          obtain ⟨view, rfl, hname⟩ := List.map_eq_singleton_iff.mp (Option.some.inj hnames)
          exact ⟨view, summary, w, rfl, hname,
            hlist ada page none _ _ w h view List.mem_cons_self _⟩

end Service

end Roster
