/-
# Namespaces of a caller, page by page

A caller sees one list: its own namespace, and then the groups in which it has a role,
by creation time and id.  The own namespace is no part of what the store lists.  It is
put before the groups, and the window of the store is moved to make room for it
(`groupWindow`); that the pages fit together all the same is `shown_groupWindow`.

The list is asked for page by page, and each of the requests brings the record of the
caller up to date first.  After the first one there is nothing left to bring up to date
(`run_ensure_of_knows`), so all of them see the same list.
-/
import Roster.Proofs.Page
import Roster.Proofs.Service.Rights
import Roster.Proofs.Store.Sorted

namespace Roster.Service

open Store (Call Memory groupKey sortOn window)

/-! ## The window -/

variable {α β : Type}

/-- **One element put before the groups** is on the first page, and all others move by one. -/
theorem shown_groupWindow (r : Page.Request) (own : α) {l : List α}
    (hl : l.length < UInt64.size - 1) :
    (if (Namespaces.groupWindow r).1 then [own] else []) ++
      window (Namespaces.groupWindow r).2.1 (Namespaces.groupWindow r).2.2 l =
        r.shown (own :: l) := by
  have hsize : 1 ≤ r.perPage.toNat := r.perPage_toNat_pos
  have hoffset := r.toNat_offset
  unfold Namespaces.groupWindow Page.Request.shown Page.slice window
  dsimp only
  by_cases hzero : r.offset = 0
  · have hfirst : (r.page.toNat - 1) * r.perPage.toNat = 0 := by
      rw [hzero] at hoffset
      simp only [UInt64.toNat_zero] at hoffset
      omega
    rw [if_pos hzero, hfirst, Page.toNat_sub_one hsize]
    simp only [if_true, UInt64.toNat_zero, List.drop_zero, List.singleton_append]
    rw [← List.take_succ_cons, Nat.sub_add_cancel hsize]
  · have hpos : 1 ≤ r.offset.toNat := Nat.pos_of_ne_zero fun h => hzero (UInt64.toNat_inj.mp h)
    rw [if_neg hzero, Page.toNat_sub_one hpos]
    simp only [Bool.false_eq_true, if_false, List.nil_append]
    by_cases hcut : (r.page.toNat - 1) * r.perPage.toNat ≤ UInt64.size - 1
    · rw [Nat.min_eq_left hcut] at hoffset
      rw [hoffset, ← List.drop_succ_cons (a := own), Nat.sub_add_cancel (hoffset ▸ hpos)]
    · -- The offset is cut off, and both lists end before it.
      rw [List.drop_eq_nil_of_le, List.drop_eq_nil_of_le]
      · simp only [List.length_cons]
        simp only [UInt64.size] at hl hcut
        omega
      · omega

/-! ## The record of the caller -/

/-- The caller is known as this user, with the profile that it shows. -/
def Knows (s : Memory) (c : Caller) (own : User) : Prop :=
  ∃ id, c.id = some id ∧ s.users.get? id = some own ∧ Users.sameProfile own c

/-- What is left when the caller has become known: nothing else has changed that a list of groups
depends on. -/
structure Settled (s : Memory) (c : Caller) (own : User) (s' : Memory) : Prop where
  knows : Knows s' c own
  groups : s'.groups = s.groups
  members : s'.members = s.members

variable {c : Caller} {own : User} {w w' : World}

theorem answer_insertUser_of_new {s : Memory} {u : User}
    (hslug : s.namespaces.get? u.slug = none) (hid : s.users.get? u.id = none) :
    Memory.answer (.insertUser u) s = (.ok (),
      { s with
        namespaces := s.namespaces.insert u.slug u.namespace
        users := s.users.insert u.id u }) := by
  simp [Memory.answer, Memory.written, Memory.insertUser, Table.contains, hslug, hid]

theorem sameProfile_newUser (c : Caller) (id slug namespaceId : String) (time : Int) :
    Users.sameProfile (Users.newUser c id slug namespaceId time) c := by
  simp [Users.sameProfile, Users.newUser]

/-- An attempt finds the slug taken, or it adds the caller. -/
theorem settled_of_register {id base : String} {attempts : List Nat} (hid : c.id = some id)
    (hnew : w.store.users.get? id = none)
    (h : (Users.register c id base attempts).run World.answer w = (.ok own, w')) :
    Settled w.store c own w'.store := by
  induction attempts generalizing w with
  | nil => cases h
  | cons attempt rest ih =>
      unfold Users.register at h
      rw [run_call] at h
      simp only [Memory.answer] at h
      cases hslug : w.store.namespaces.get? (Users.candidate base attempt) with
      | some n =>
          rw [hslug] at h
          exact ih (w := w.after (.findNamespace (Users.candidate base attempt))) hnew h
      | none =>
          -- With nobody in between, a slug found free is still free when the user is added.
          rw [hslug, run_now, run_freshId, run_tryCall] at h
          have hins := answer_insertUser_of_new (s := w.store) (u := Users.newUser c id
            (Users.candidate base attempt) (w.supply.ids 0) (w.supply.times 0)) hslug hnew
          simp only [World.after, World.answer, Memory.answer] at h hins
          rw [hins] at h
          cases h
          exact ⟨⟨id, hid, by simp [Users.newUser], sameProfile_newUser ..⟩, rfl, rfl⟩

/-- A caller that is known already shows its profile. -/
theorem settled_of_refresh {u : User} {id : String} (hid : c.id = some id)
    (hkeyed : w.store.users.Keyed User.id) (hknown : w.store.users.get? id = some u)
    (h : (Users.refresh u c).run World.answer w = (.ok own, w')) :
    Settled w.store c own w'.store := by
  unfold Users.refresh at h
  split at h
  · next hsame =>
      cases h
      exact ⟨⟨id, hid, hknown, hsame⟩, rfl, rfl⟩
  · have hu : u.id = id := hkeyed hknown
    subst hu
    rw [run_now, run_call] at h
    simp only [World.after, World.answer, Memory.answer, Memory.updateProfile, hknown] at h
    cases h
    refine ⟨⟨u.id, hid, ?_, ?_⟩, rfl, rfl⟩
    · simp [Memory.withProfileOf]
    · simp [Users.sameProfile]

/-- The record of a known caller is refreshed. -/
theorem run_ensure_of_known {id : String} {u : User} (hid : c.id = some id)
    (hknown : w.store.users.get? id = some u) :
    (Users.ensure c).run World.answer w =
      (Users.refresh u c).run World.answer (w.after (.findUser id)) := by
  unfold Users.ensure requireLogin
  rw [hid, Plan.done_bind, run_call]
  simp only [Memory.answer, hknown]

/-- A caller without a record is registered. -/
theorem run_ensure_of_new {id : String} (hid : c.id = some id)
    (hnew : w.store.users.get? id = none) :
    (Users.ensure c).run World.answer w =
      (Users.register c id (Users.slugBase c id) (List.range' 1 Users.maxAttempts)).run
        World.answer (w.after (.findUser id)) := by
  unfold Users.ensure requireLogin
  rw [hid, Plan.done_bind, run_call]
  simp only [Memory.answer, hnew]

theorem settled_of_ensure (hkeyed : w.store.users.Keyed User.id)
    (h : (Users.ensure c).run World.answer w = (.ok own, w')) :
    Settled w.store c own w'.store := by
  cases hid : c.id with
  | none =>
      unfold Users.ensure requireLogin at h
      rw [hid] at h
      cases h
  | some id =>
      cases hknown : w.store.users.get? id with
      | some u =>
          rw [run_ensure_of_known hid hknown] at h
          exact settled_of_refresh (w := w.after (.findUser id)) hid hkeyed hknown h
      | none =>
          rw [run_ensure_of_new hid hknown] at h
          exact settled_of_register (w := w.after (.findUser id)) hid hknown h

/-- Nothing has to be done for a caller that is known and shows its profile. -/
theorem run_ensure_of_knows (h : Knows w.store c own) :
    ∃ w', (Users.ensure c).run World.answer w = (.ok own, w') ∧
      w'.store = w.store ∧ w'.supply = w.supply := by
  obtain ⟨id, hid, hknown, hsame⟩ := h
  refine ⟨w.after (.findUser id), ?_, rfl, rfl⟩
  rw [run_ensure_of_known hid hknown, Users.refresh, if_pos hsame]
  rfl

/-! ## The groups of the caller -/

/-- The groups in which a user has a role not below the least one asked for, in the order of
lists. -/
def groupsOf (s : Memory) (u : String) (minimum : Option Role) : List Group :=
  sortOn groupKey (s.memberGroups u (Role.atLeast (minimum.getD .viewer)))

theorem getD_viewer_le_iff {minimum : Option Role} {role : Role} :
    minimum.getD .viewer ≤ role ↔ ∀ least, minimum = some least → least ≤ role := by
  cases minimum with
  | none =>
      refine ⟨fun _ => nofun, fun _ => ?_⟩
      cases role <;> decide
  | some least => simp

variable {s : Memory} {u : String} {minimum : Option Role}

theorem mem_memberGroupIds {roles : List Role} {id : String} :
    id ∈ s.memberGroupIds u roles ↔ ∃ role ∈ roles, s.HasRole u id role := by
  simp only [Memory.memberGroupIds, List.mem_map, List.mem_filter, Table.mem_values_iff,
    Bool.and_eq_true, beq_iff_eq, List.contains_iff_mem]
  constructor
  · rintro ⟨m, ⟨⟨k, hk⟩, huser, hrole⟩, hgroup⟩
    exact ⟨m.role, hrole, k, m, hk, hgroup, huser, rfl⟩
  · rintro ⟨role, hrole, k, m, hk, hgroup, huser, rfl⟩
    exact ⟨m, ⟨⟨k, hk⟩, huser, hrole⟩, hgroup⟩

theorem mem_groupsOf (hs : s.SlugsKept) {g : Group} :
    g ∈ groupsOf s u minimum ↔ s.groups.get? g.id = some g ∧
      ∃ role, s.HasRole u g.id role ∧ ∀ least, minimum = some least → least ≤ role := by
  rw [groupsOf, (Store.sortOn_perm _ _).mem_iff, Memory.memberGroups, List.mem_filter,
    hs.groups.mem_values_iff, List.contains_iff_mem, mem_memberGroupIds]
  simp only [Role.mem_atLeast, getD_viewer_le_iff, and_comm]

/-- The groups stand in strictly ascending order, so none of them stands there twice. -/
theorem pairwise_groupsOf (hs : s.SlugsKept) :
    (groupsOf s u minimum).Pairwise fun a b =>
      a.createTime < b.createTime ∨ a.createTime = b.createTime ∧ a.id < b.id := by
  have hne : (s.memberGroups u (Role.atLeast (minimum.getD .viewer))).Pairwise
      fun a b => groupKey a ≠ groupKey b := (Store.pairwise_groupKey_ne hs.groups).filter _
  exact Store.pairwise_precedes_sortOn hne

theorem length_groupsOf_le : (groupsOf s u minimum).length ≤ s.groups.size := by
  rw [groupsOf, (Store.sortOn_perm _ _).length_eq, ← Table.length_values]
  exact List.length_filter_le ..

/-! ## The list -/

/-- The list of which a caller is shown pages: its own namespace, and then its groups. -/
def namespacesOf (s : Memory) (own : User) (u : String) (minimum : Option Role) :
    List Namespace.View :=
  own.view :: (groupsOf s u minimum).map Group.view

theorem nodup_namespacesOf (hs : s.SlugsKept) : (namespacesOf s own u minimum).Nodup := by
  refine List.nodup_cons.mpr ⟨fun h => ?_, List.pairwise_map.mpr ?_⟩
  · obtain ⟨g, -, hg⟩ := List.mem_map.mp h
    exact Namespace.Kind.noConfusion (congrArg Namespace.View.kind hg)
  · refine (pairwise_groupsOf hs).imp fun {a b} hab he => ?_
    have htime : a.createTime = b.createTime := congrArg Namespace.View.createTime he
    have hid : a.id = b.id := congrArg Namespace.View.id he
    rcases hab with hlt | ⟨-, hlt⟩
    · omega
    · exact String.lt_irrefl b.id (hid ▸ hlt)

theorem toNat_ofNat_length (own : User) (h : (groupsOf s u minimum).length < UInt64.size - 1) :
    (UInt64.ofNat (namespacesOf s own u minimum).length).toNat =
      (namespacesOf s own u minimum).length := by
  refine UInt64.toNat_ofNat_of_lt' ?_
  simp only [namespacesOf, List.length_cons, List.length_map, UInt64.size] at h ⊢
  omega

theorem countMemberGroups_add_one (own : User) :
    s.countMemberGroups u (Role.atLeast (minimum.getD .viewer)) + 1 =
      UInt64.ofNat (namespacesOf s own u minimum).length := by
  rw [Memory.countMemberGroups, namespacesOf, List.length_cons, List.length_map, groupsOf,
    (Store.sortOn_perm _ _).length_eq, UInt64.ofNat_add]
  rfl

theorem window_map (f : α → β) (skip limit : UInt64) (l : List α) :
    window skip limit (l.map f) = (window skip limit l).map f := by
  rw [window, window, ← List.map_drop, ← List.map_take]

theorem groupsOf_congr {s' : Memory} (hg : s'.groups = s.groups) (hm : s'.members = s.members) :
    groupsOf s' u minimum = groupsOf s u minimum := by
  rw [groupsOf, groupsOf, Memory.memberGroups, Memory.memberGroups, Memory.memberGroupIds,
    Memory.memberGroupIds, hg, hm]

theorem toNat_countMemberGroups (h : (groupsOf s u minimum).length < UInt64.size - 1) :
    (s.countMemberGroups u (Role.atLeast (minimum.getD .viewer))).toNat =
      (groupsOf s u minimum).length := by
  rw [groupsOf, (Store.sortOn_perm _ _).length_eq] at h ⊢
  exact UInt64.toNat_ofNat_of_lt' (Nat.lt_of_lt_of_le h (Nat.sub_le _ _))

/-- Once the caller is known, a page of the list is answered, and nothing else happens. -/
theorem run_list (hu : c.id = some u) (r : Page.Request)
    (hsize : (groupsOf w'.store u minimum).length < UInt64.size - 1)
    (h : (Users.ensure c).run World.answer w = (.ok own, w')) :
    ∃ w'', (Namespaces.list c r minimum).run World.answer w =
        (.ok (r.shown (namespacesOf w'.store own u minimum),
          r.summary (.ofNat (namespacesOf w'.store own u minimum).length)), w'') ∧
      w''.store = w'.store ∧ w''.supply = w'.supply := by
  have hshown := shown_groupWindow r own.view (l := (groupsOf w'.store u minimum).map Group.view)
    (by simpa using hsize)
  unfold Namespaces.list requireLogin
  rw [hu, Plan.done_bind, Plan.run_bind, h]
  dsimp only
  rw [run_call]
  simp only [Memory.answer, countMemberGroups_add_one own]
  rw [window_map] at hshown
  generalize Namespaces.groupWindow r = cut at hshown ⊢
  obtain ⟨withOwn, skip, limit⟩ := cut
  dsimp only at hshown ⊢
  by_cases hlimit : limit = 0
  · -- Nothing is left of the page, and the store is not asked.
    subst hlimit
    simp only [window, UInt64.toNat_zero, List.take_zero, List.map_nil] at hshown
    rw [if_pos rfl, namespacesOf, ← hshown]
    exact ⟨_, rfl, rfl, rfl⟩
  · rw [if_neg hlimit, run_call]
    simp only [Memory.answer, namespacesOf, ← hshown]
    exact ⟨_, rfl, rfl, rfl⟩

/-- The answer to a request for a page of the list. -/
abbrev listed (s : Memory) (own : User) (u : String) (minimum : Option Role) (r : Page.Request) :
    List Namespace.View × Page.Summary :=
  (r.shown (namespacesOf s own u minimum),
    r.summary (.ofNat (namespacesOf s own u minimum).length))

/-- One request after the other sees the same list, if the caller is known. -/
theorem inTurn_list_of_knows (hu : c.id = some u) (hs : Knows s c own)
    (hsize : (groupsOf s u minimum).length < UInt64.size - 1) (asked : List Page.Request)
    (σ : Supply) :
    (inTurn (asked.map (Namespaces.list c · minimum)) s σ).1 =
      asked.map fun r => .ok (listed s own u minimum r) := by
  -- The store is left as it was, so the caller is known to the next request, too.
  have halone : ∀ r σ, ∃ w,
      alone (Namespaces.list c r minimum) s σ = (.ok (listed s own u minimum r), w) ∧
        w.store = s := by
    intro r σ
    obtain ⟨w, hw, hstore, -⟩ := run_ensure_of_knows (w := ⟨s, σ, []⟩) hs
    have hsame : w.store = s := hstore
    obtain ⟨w', hw', hstore', -⟩ := run_list hu r (hsame.symm ▸ hsize) hw
    rw [hsame] at hstore' hw'
    exact ⟨w', hw', hstore'⟩
  exact congrArg Prod.fst (inTurn_of_unchanged halone asked σ)

/-- The first of the requests makes the caller known, if it was not. -/
theorem inTurn_list (hu : c.id = some u) {σ : Supply} (hs : s.users.Keyed User.id)
    (h : alone (Users.ensure c) s σ = (.ok own, w))
    (hsize : (groupsOf w.store u minimum).length < UInt64.size - 1) (asked : List Page.Request) :
    (inTurn (asked.map (Namespaces.list c · minimum)) s σ).1 =
      asked.map fun r => .ok (listed w.store own u minimum r) := by
  cases asked with
  | nil => rfl
  | cons r asked =>
      have hknows : Knows w.store c own := (settled_of_ensure (w := ⟨s, σ, []⟩) hs h).knows
      obtain ⟨w', hw', hstore, -⟩ := run_list hu r hsize h
      rw [List.map_cons, inTurn, alone, hw', List.map_cons]
      dsimp only
      rw [hstore]
      exact congrArg (List.cons _) (inTurn_list_of_knows hu hknows hsize asked w'.supply)

/-- **A caller's namespaces are listed page by page**: in any store that traffic can reach, each
request shows its part of one list, and so do requests that follow one another.  The pages are the
list without gaps and repetitions, and no number on the way leaves the words of 64 bits. -/
theorem namespaces_listed_page_by_page {t : Traffic desk} (ht : t.Reached) {c : Caller} {u : String}
    (hu : c.id = some u) (minimum : Option Role) (σ : Supply)
    (hsize : t.store.groups.size < UInt64.size - 1) :
    match alone (Users.ensure c) t.store σ with
    | (.error f, _) => ∀ r, (alone (Namespaces.list c r minimum) t.store σ).1 = .error f
    | (.ok own, w) => ∃ groups : List Group,
        (groups.Pairwise fun a b =>
          a.createTime < b.createTime ∨ a.createTime = b.createTime ∧ a.id < b.id) ∧
        (∀ g, g ∈ groups ↔ t.store.groups.get? g.id = some g ∧
          ∃ role, t.store.HasRole u g.id role ∧ ∀ least, minimum = some least → least ≤ role) ∧
        let first := Text.trim (own.firstName.getD "")
        let last := Text.trim (own.lastName.getD "")
        let name := if first = "" then if last = "" then none else some last
          else some (if last = "" then first else first ++ " " ++ last)
        let personal : Namespace.View :=
          { id := own.namespaceId, kind := .user, name := name, slug := own.slug,
            createdBy := own.id, createTime := own.createTime }
        let all := personal :: groups.map fun g =>
          { id := g.id, kind := .group, name := some g.name, slug := g.slug,
            createdBy := g.createdBy, createTime := g.createTime }
        all.Nodup ∧
        (∀ r : Page.Request, ∃ shown total,
          (alone (Namespaces.list c r minimum) t.store σ).1 = .ok (shown, r.summary total) ∧
          shown = (all.drop ((r.page.toNat - 1) * r.perPage.toNat)).take r.perPage.toNat ∧
          total.toNat = all.length ∧
          (r.summary total).totalPages.toNat = Page.pages all.length r.perPage.toNat ∧
          (Page.pages all.length r.perPage.toNat < r.page.toNat → shown = [])) ∧
        (∀ (size : Nat) (asked : List Page.Request), 0 < size →
          (∀ r ∈ asked, r.perPage.toNat = size) →
          asked.map (·.page.toNat) = List.range' 1 (Page.pages all.length size) →
          ∃ answers : List (List Namespace.View × Page.Summary),
            (inTurn (asked.map (Namespaces.list c · minimum)) t.store σ).1 = answers.map .ok ∧
            answers.flatMap (·.1) = all) ∧
        ∀ r : Page.Request, (r.page - 1).toNat + 1 = r.page.toNat ∧
          (r.perPage - 1).toNat + 1 = r.perPage.toNat ∧
          (r.offset ≠ 0 → (r.offset - 1).toNat + 1 = r.offset.toNat) ∧
          let count := w.store.countMemberGroups u (Role.atLeast (minimum.getD .viewer))
          (count + 1).toNat = count.toNat + 1 := by
  have hslugs : t.store.SlugsKept := ht.kept.1.slugs
  split
  · next f w h =>
      intro r
      unfold alone Namespaces.list requireLogin at *
      rw [hu, Plan.done_bind, Plan.run_bind, h]
  · next own w h =>
      obtain ⟨-, hgroups, hmembers⟩ := settled_of_ensure (w := ⟨t.store, σ, []⟩) hslugs.users h
      have hsame : groupsOf w.store u minimum = groupsOf t.store u minimum :=
        groupsOf_congr hgroups hmembers
      have hlength : (groupsOf w.store u minimum).length < UInt64.size - 1 :=
        Nat.lt_of_le_of_lt (hsame ▸ length_groupsOf_le) hsize
      have htotal := toNat_ofNat_length own hlength
      refine ⟨groupsOf t.store u minimum, pairwise_groupsOf hslugs, fun g => mem_groupsOf hslugs,
        ?_⟩
      intro first last name personal all
      have hpersonal : personal = own.view := by
        have hname : fullName own.firstName own.lastName = name :=
          fullName_eq own.firstName own.lastName
        rw [User.view, hname]
      have hbefore : namespacesOf t.store own u minimum = all := by
        rw [namespacesOf, ← hpersonal]
        rfl
      have hall : namespacesOf w.store own u minimum = all := by
        rw [← hbefore, namespacesOf, hsame, namespacesOf]
      clear_value all
      refine ⟨hbefore ▸ nodup_namespacesOf hslugs, fun r => ?_, fun size asked hpos hasked hpages => ?_,
        fun r => ?_⟩
      · obtain ⟨w', hlist, -⟩ := run_list hu r hlength h
        refine ⟨_, _, congrArg Prod.fst hlist, congrArg _ hall, ?_, ?_, fun hlater => ?_⟩
        · rw [htotal, hall]
        · exact (Page.toNat_totalPages r.perPage_toNat_pos).trans (by rw [htotal, hall])
        · exact Page.slice_eq_nil r.perPage_toNat_pos (by rw [hall]; exact hlater)
      · refine ⟨asked.map (listed w.store own u minimum), ?_, ?_⟩
        · rw [inTurn_list hu hslugs.users h hlength, List.map_map]
          rfl
        · rw [List.flatMap_map]
          show asked.flatMap (·.shown (namespacesOf w.store own u minimum)) = _
          rw [hall]
          exact Page.flatMap_shown hpos hasked hpages
      · obtain ⟨hpage, hperPage, hoffset⟩ := r.sub_one_add_one
        refine ⟨hpage, hperPage, hoffset, ?_⟩
        dsimp only
        rw [countMemberGroups_add_one own, htotal, namespacesOf, List.length_cons,
          List.length_map, toNat_countMemberGroups hlength]

/-- The maker of a group finds it among the groups that it owns, on every page that is asked for. -/
theorem namespaces_of_group_maker_listed :
    let ada : Caller := { id := some "ada" }
    let made := alone (Groups.create ada ⟨"Lab", "lab", none⟩) {} .counting
    made.2.store.groups.size < UInt64.size - 1 ∧ ∃ own, ∃ groups : List Group,
      Group.ofDraft ⟨"Lab", "lab", none⟩ (Ulid.text 0 0) "ada" 0 ∈ groups ∧
      ∀ r : Page.Request, ∃ total,
        (alone (Namespaces.list ada r (some .owner)) made.2.store made.2.supply).1 =
          .ok (r.shown (own :: groups.map Group.view), r.summary total) := by
  intro ada made
  have hreached : (⟨made.2.store, _⟩ : Traffic desk).Reached :=
    Traffic.Reached.alone (D := desk) .refl (.createGroup ada ⟨"Lab", "lab", none⟩)
      Supply.shaped_counting
  have hsize : made.2.store.groups.size < UInt64.size - 1 := by decide
  have hensured : (alone (Users.ensure ada) made.2.store made.2.supply).1.isOk := by rfl
  have hlisted :=
    namespaces_listed_page_by_page hreached (c := ada) rfl (some .owner) made.2.supply hsize
  refine ⟨hsize, ?_⟩
  split at hlisted
  · next f w h =>
      rw [h] at hensured
      cases hensured
  · next own w h =>
      obtain ⟨groups, -, hmem, -, hshown, -⟩ := hlisted
      refine ⟨own.view, groups, (hmem _).mpr ⟨by rfl, .owner, ?_, ?_⟩, fun r => ?_⟩
      · exact ⟨Member.idOf (Ulid.text 0 0) "ada", .new (Ulid.text 0 0) "ada" .owner 0, by rfl, rfl,
          rfl, rfl⟩
      · rintro least ⟨⟩
        decide
      · obtain ⟨shown, total, hlist, rfl, -⟩ := hshown r
        have hname := fullName_eq own.firstName own.lastName
        dsimp only at hname
        rw [← hname] at hlist
        exact ⟨total, hlist⟩

end Roster.Service
