/-
# Pages of lists on a document server

On a document server the services make the same calls as in memory, and a call that is answered
there as in memory leads on alike (`run_call_of_follows`).  So the pages of groups and of namespaces
are cut from the same lists.

Not every page can be asked for.  How many records come before a page is said in a signed word, so
a page that begins too far behind is refused (`refuses_groupPage`), whereas in memory it is empty
as every page behind the last one.  The list of namespaces goes one place further, since the
caller's own comes before those that the store is asked for, and it is never refused to a caller
that has no group.
-/
import Roster.Proofs.Service.Callers
import Roster.Proofs.Service.Groups
import Roster.Proofs.Store.Refinement
import Roster.Proofs.Store.Users
import Roster.Rehearsal.Stage

namespace Roster

namespace Store.Documents

/-- The store on a document server, as the services meet it. -/
def backend {σ : Type} (H : Document.Host σ) : Rehearsal.Backend σ :=
  fun c w => (plan c).run H.answer w

end Store.Documents

namespace Service

open Document (Host)
open Rehearsal (Stage)
open Store (Call Memory Mirrors window)
open Store.Documents

/-! ## Calls on a host -/

section Calls

variable {α σ : Type} {H : Host σ} {st : Stage σ} {s s' : Memory}

/-- How a stage with a document server answers. -/
abbrev onHost (H : Host σ) : (q : Ask) → Stage σ → q.Answer × Stage σ :=
  Stage.answerBy (Stage.call (backend H))

/-- The host on the stage holds the records of the store, and no transaction is open. -/
structure Mirrored (H : Host σ) (st : Stage σ) (s : Memory) : Prop where
  saved : H.saved st.store = none
  mirrors : Mirrors (H.holds st.store) s

/-- The plan has this outcome on every lawful host that holds the records of the store, whatever
the clock shows. -/
def OnHosts (s : Memory) (p : Service α) (o : Except Fault α) : Prop :=
  ∀ {σ : Type} {H : Host σ} {st : Stage σ}, H.Lawful → Mirrored H st s →
    (st.runPlain (backend H) p).1 = o

/-- A call that is answered leads on from a host with the records of another store. -/
theorem run_call_of_follows (hH : H.Lawful) (hm : Mirrored H st s) {c : Call} {a : c.Answer}
    (h : Ensures (Follows (.ok a) s') (plan c) (H.holds st.store) none)
    (k : c.Answer → Service α) :
    ∃ st', Mirrored H st' s' ∧ (call c >>= k).run (onHost H) st = (k a).run (onHost H) st' := by
  obtain ⟨hout, hmirrors, hsaved⟩ := h.run_alone hH hm.saved
  have hanswer : (onHost H (.store c) st).1 = .ok a := hout
  refine ⟨(onHost H (.store c) st).2, ⟨hsaved, hmirrors⟩, ?_⟩
  rw [run_call_by, hanswer]

/-- A lookup leads on from a host with the same records. -/
theorem run_call_of_finds (hH : H.Lawful) (hm : Mirrored H st s) {c : Call} {a : c.Answer}
    (h : Ensures (Finds (H.holds st.store) a) (plan c) (H.holds st.store) none)
    (k : c.Answer → Service α) :
    ∃ st', Mirrored H st' s ∧ (call c >>= k).run (onHost H) st = (k a).run (onHost H) st' := by
  refine run_call_of_follows hH hm (h.imp fun o now' before hends => ?_) k
  obtain ⟨rfl, rfl, rfl⟩ := hends
  exact ⟨rfl, hm.mirrors, rfl⟩

/-- A call that is refused leads nowhere. -/
theorem run_call_of_refuses (hH : H.Lawful) (hm : Mirrored H st s) {c : Call} {f : Fault}
    (h : Ensures (Refuses (H.holds st.store) f) (plan c) (H.holds st.store) none)
    (k : c.Answer → Service α) : ((call c >>= k).run (onHost H) st).1 = .error f := by
  have hanswer : (onHost H (.store c) st).1 = .error f := (h.run_alone hH hm.saved).1
  rw [run_call_by, hanswer]

end Calls

/-! ## Groups -/

variable {s : Memory}

/-- The number of records on a page can be sent. -/
theorem sentLimit_perPage (r : Page.Request) : sentLimit r.perPage = r.perPage :=
  sentLimit_of_lt (UInt64.lt_of_le_of_lt r.perPage_le (by decide))

/-- A page of the list of groups is found as in memory, or begins too far behind. -/
theorem onHosts_listGroups (hs : s.Kept) (r : Page.Request) :
    OnHosts s (Groups.list r)
      (if r.offset < signedLimit then
        .ok (s.pageGroups r.offset r.perPage, r.summary s.countGroups)
      else .error (.skipTooLarge r.offset)) := by
  intro σ H st hH hm
  show ((Groups.list r).run (onHost H) st).1 = _
  unfold Groups.list
  obtain ⟨st', hm, hrun⟩ :=
    run_call_of_finds hH hm (c := .countGroups) (finds_countGroups hm.mirrors) _
  rw [hrun]
  split
  · next hskip =>
      have hpage := @finds_pageGroups _ s r.offset r.perPage hm.mirrors hs (.inr hskip)
      rw [sentLimit_perPage] at hpage
      obtain ⟨st'', -, hrun⟩ :=
        run_call_of_finds hH hm (c := .pageGroups r.offset r.perPage) hpage _
      rw [hrun]
      rfl
  · next hskip =>
      exact run_call_of_refuses hH hm (c := .pageGroups r.offset r.perPage)
        (refuses_groupPage r.perPage_ne_zero (UInt64.not_lt.mp hskip)) _

/-! ## Namespaces -/

section Namespaces

variable {σ : Type} {H : Host σ} {st : Stage σ} {s s' : Memory} {c : Caller} {u : String}
  {own old : User} {minimum : Option Role} {roles : List Role} {skip limit : UInt64}

/-- A known caller has its record brought up to date on a host, too. -/
theorem run_ensure_on_host (hH : H.Lawful) (hm : Mirrored H st s) (hs : s.Kept)
    (hu : c.id = some u) (hknown : s.users.get? u = some old) :
    ∃ own st' s', (Users.ensure c).run (onHost H) st = (.ok own, st') ∧ Mirrored H st' s' ∧
      s'.Kept ∧ own.view = (old.refreshed c 0).view ∧ s'.groups = s.groups ∧
      s'.members = s.members := by
  unfold Users.ensure requireLogin
  rw [hu, Plan.done_bind]
  obtain ⟨st₁, hm₁, hrun⟩ :=
    run_call_of_finds hH hm (c := .findUser u) (finds_findUser hm.mirrors hs u) _
  rw [hrun, hknown]
  show ∃ own st' s', (Users.refresh old c).run (onHost H) st₁ = _ ∧ _
  by_cases hsame : Users.sameProfile old c
  · obtain ⟨hfirst, hlast, -⟩ := sameProfile_iff.mp hsame
    rw [Users.refresh, if_pos hsame]
    refine ⟨old, st₁, s, rfl, hm₁, hs, ?_, rfl, rfl⟩
    rw [User.view, hfirst, hlast]
    rfl
  · let changed : User :=
      { old with
        firstName := c.firstName, lastName := c.lastName, email := c.email
        updateTime := (st₁.moment / 1000 : Nat) }
    have hupdate := follows_updateProfile hm₁.mirrors hs changed
    obtain ⟨st₂, hm₂, hrun⟩ := run_call_of_follows hH hm₁ (c := .updateProfile changed) hupdate
      fun _ => .done changed
    have hkept : (s.updateProfile changed).Kept :=
      Memory.answer_kept (c := .updateProfile changed) trivial hs
    obtain ⟨hgroups, hmembers⟩ :=
      (Memory.answer_onlyUser (c := .updateProfile changed) rfl s).groups
    rw [Users.refresh, if_neg hsame]
    exact ⟨changed, st₂, s.updateProfile changed, hrun, hm₂, hkept, rfl, hgroups, hmembers⟩

/-- What is listed is known from the groups, the memberships and the caller's own namespace. -/
theorem namespacesOf_congr {own' : User} (hview : own'.view = own.view)
    (hgroups : s'.groups = s.groups) (hmembers : s'.members = s.members) :
    namespacesOf s' own' u minimum = namespacesOf s own u minimum := by
  rw [namespacesOf, namespacesOf, hview, groupsOf_congr hgroups hmembers]

/-- The groups on a page of namespaces are found as in memory, if there are any to be asked for and
those before them are not too many to be said. -/
theorem run_pageMemberGroups_on_host {α : Type} (hH : H.Lawful) (hm : Mirrored H st s) (hs : s.Kept)
    (hlimit : limit < signedLimit)
    (hfits : s.memberGroups u roles = [] ∨ limit = 0 ∨ skip < signedLimit)
    (k : List Group → Service α) :
    ∃ st', (if limit = 0 then pure [] >>= k
        else call (.pageMemberGroups u roles skip limit) >>= k).run (onHost H) st =
      (k (s.pageMemberGroups u roles skip limit)).run (onHost H) st' := by
  by_cases hzero : limit = 0
  · subst hzero
    exact ⟨st, rfl⟩
  · have hpage := @finds_pageMemberGroups _ s skip limit hm.mirrors hs u roles hfits
    rw [sentLimit_of_lt hlimit] at hpage
    obtain ⟨st', -, hrun⟩ :=
      run_call_of_finds hH hm (c := .pageMemberGroups u roles skip limit) hpage k
    rw [if_neg hzero]
    exact ⟨st', hrun⟩

/-- The window of a page of namespaces can be sent up to an offset that is one too large, because
the caller's own namespace is not asked for. -/
theorem groupWindow_fits_iff (r : Page.Request) :
    (Namespaces.groupWindow r).2.2 = 0 ∨ (Namespaces.groupWindow r).2.1 < signedLimit ↔
      r.offset ≤ signedLimit := by
  unfold Namespaces.groupWindow
  dsimp only
  split
  · next hzero => simp [hzero, signedLimit]
  · next hzero =>
      have hback := (r.sub_one_add_one).2.2 hzero
      simp only [r.perPage_ne_zero, false_or, UInt64.lt_iff_toNat_lt, UInt64.le_iff_toNat_le]
      omega

theorem groupWindow_limit_lt (r : Page.Request) :
    (Namespaces.groupWindow r).2.2 < signedLimit := by
  have hle : r.perPage.toNat ≤ 100 := UInt64.le_iff_toNat_le.mp r.perPage_le
  have hback := r.sub_one_add_one.2.1
  rw [UInt64.lt_iff_toNat_lt]
  show _ < 9223372036854775808
  unfold Namespaces.groupWindow
  dsimp only
  split
  · show (r.perPage - 1).toNat < _
    omega
  · show r.perPage.toNat < _
    omega

/-- A window that cannot be sent begins behind the caller's own namespace. -/
theorem groupWindow_start {r : Page.Request} (h : ¬ r.offset ≤ signedLimit) :
    (Namespaces.groupWindow r).2.1 = r.offset - 1 := by
  have hne : r.offset ≠ 0 := fun hzero => h (hzero ▸ by decide)
  rw [Namespaces.groupWindow, if_neg hne]

/-- The answer to a request for a page of namespaces, with the groups that the store has found. -/
theorem shown_namespaces (own : User) (r : Page.Request)
    (hsize : (groupsOf s u minimum).length < UInt64.size - 1) :
    (if (Namespaces.groupWindow r).1 then [own.view] else []) ++
      (s.pageMemberGroups u (Role.atLeast (minimum.getD .viewer)) (Namespaces.groupWindow r).2.1
        (Namespaces.groupWindow r).2.2).map Group.view =
      r.shown (namespacesOf s own u minimum) := by
  have hshown := shown_groupWindow r own.view (l := (groupsOf s u minimum).map Group.view)
    (by simpa using hsize)
  rw [window_map] at hshown
  exact hshown

theorem groupsOf_eq_nil_iff :
    groupsOf s u minimum = [] ↔ s.memberGroups u (Role.atLeast (minimum.getD .viewer)) = [] := by
  rw [groupsOf, ← List.length_eq_zero_iff, (Store.sortOn_perm _ _).length_eq,
    List.length_eq_zero_iff]

/-- A page of the list of namespaces is found as in memory, or begins too far behind. -/
theorem onHosts_listNamespaces (hs : s.Kept) (hu : c.id = some u)
    (hknown : s.users.get? u = some old) (r : Page.Request)
    (hsize : (groupsOf s u minimum).length < UInt64.size - 1) :
    OnHosts s (Namespaces.list c r minimum)
      (if groupsOf s u minimum = [] ∨ r.offset ≤ signedLimit then
        .ok (listed s (old.refreshed c 0) u minimum r)
      else .error (.skipTooLarge (r.offset - 1))) := by
  intro σ H st hH hm
  obtain ⟨own, st₁, s₁, hensure, hm₁, hs₁, hview, hgroups, hmembers⟩ :=
    run_ensure_on_host hH hm hs hu hknown
  have hsame : groupsOf s₁ u minimum = groupsOf s u minimum := groupsOf_congr hgroups hmembers
  have hall : namespacesOf s₁ own u minimum = namespacesOf s (old.refreshed c 0) u minimum :=
    namespacesOf_congr hview hgroups hmembers
  have hshown := shown_namespaces own r (hsame ▸ hsize)
  show ((Namespaces.list c r minimum).run (onHost H) st).1 = _
  unfold Namespaces.list requireLogin
  rw [hu, Plan.done_bind, Plan.run_bind, hensure]
  dsimp only
  obtain ⟨st₂, hm₂, hrun⟩ := run_call_of_finds hH hm₁
    (c := .countMemberGroups u (Role.atLeast (minimum.getD .viewer)))
    (finds_countMemberGroups hm₁.mirrors u _) _
  rw [hrun, countMemberGroups_add_one own, hall]
  by_cases hfits : groupsOf s u minimum = [] ∨ r.offset ≤ signedLimit
  · rw [if_pos hfits]
    rw [← hsame, groupsOf_eq_nil_iff, ← groupWindow_fits_iff] at hfits
    obtain ⟨st₃, hrun⟩ := run_pageMemberGroups_on_host hH hm₂ hs₁ (groupWindow_limit_lt r) hfits _
    rw [hrun, hshown, hall]
    rfl
  · obtain ⟨hsome, hlarge⟩ := not_or.mp hfits
    obtain ⟨hlimit, hskip⟩ := not_or.mp (mt (groupWindow_fits_iff r).mp hlarge)
    rw [← hsame, groupsOf_eq_nil_iff] at hsome
    rw [if_neg hfits, ← groupWindow_start hlarge, if_neg hlimit]
    exact run_call_of_refuses hH hm₂ (c := .pageMemberGroups u _ _ _)
      (refuses_pageMemberGroups hm₂.mirrors hsome hlimit (UInt64.not_lt.mp hskip)) _

end Namespaces

/-! ## Both stores -/

/-- The answer shows the part of a list that was asked for, and the true totals. -/
structure PageOf {α : Type} (r : Page.Request) (all : List α) (answer : List α × Page.Summary) :
    Prop where
  shown : answer.1 = (all.drop ((r.page.toNat - 1) * r.perPage.toNat)).take r.perPage.toNat
  page : answer.2.page = r.page
  perPage : answer.2.perPage = r.perPage
  total : answer.2.total.toNat = all.length
  totalPages : answer.2.totalPages.toNat = Page.pages all.length r.perPage.toNat
  /-- Nothing is shown from behind the end of the list. -/
  behind : all.length ≤ r.offset.toNat → answer.1 = []

theorem pageOf_summary {α : Type} (r : Page.Request) {all : List α} {total : UInt64}
    (htotal : total.toNat = all.length) : PageOf r all (r.shown all, r.summary total) := by
  refine ⟨rfl, rfl, rfl, htotal, ?_, fun hbehind => ?_⟩
  · rw [← htotal]
    exact Page.toNat_totalPages r.perPage_toNat_pos
  · have hoffset : r.offset.toNat ≤ (r.page.toNat - 1) * r.perPage.toNat :=
      r.toNat_offset ▸ Nat.min_le_left ..
    show (all.drop _).take _ = []
    rw [List.drop_eq_nil_of_le (Nat.le_trans hbehind hoffset), List.take_nil]

/-- In memory every page of the namespaces of a known caller is shown. -/
theorem alone_listNamespaces {c : Caller} {u : String} {old : User} {minimum : Option Role}
    (hs : s.SlugsKept) (hu : c.id = some u) (hknown : s.users.get? u = some old)
    (r : Page.Request) (hsize : (groupsOf s u minimum).length < UInt64.size - 1) (σ : Supply) :
    (alone (Namespaces.list c r minimum) s σ).1 =
      .ok (listed s (old.refreshed c 0) u minimum r) := by
  obtain ⟨w, hensure, -⟩ := alone_ensure_of_known (σ := σ) hs hu hknown
  obtain ⟨-, hgroups, hmembers⟩ := settled_of_ensure (w := ⟨s, σ, []⟩) hs.users hensure
  have hsame : groupsOf w.store u minimum = groupsOf s u minimum := groupsOf_congr hgroups hmembers
  have hall : namespacesOf w.store (old.refreshed c (σ.times 0)) u minimum =
      namespacesOf s (old.refreshed c 0) u minimum := namespacesOf_congr rfl hgroups hmembers
  obtain ⟨w', hlist, -⟩ := run_list hu r (hsame.symm ▸ hsize) hensure
  rw [alone, hlist, hall]

/-- **Every page is served in memory, and on a document server all but those that begin too far
behind**, in any store that traffic can reach and on any lawful host that holds the same records.
A page has the true totals, and it is empty if it begins behind the end of the list.  On a host
that is so only up to the largest number of records that a command can pass over.  From there on a
page of groups is refused, and one place later a page of the namespaces of a caller that has a
group. -/
theorem pages_served_within_signed_limit {t : Traffic desk} (ht : t.Reached)
    (hsize : t.store.groups.size < UInt64.size - 1) (r : Page.Request) :
    (∃ (all : List Group) (page : List Group × Page.Summary),
      (all.Pairwise fun a b =>
        a.createTime < b.createTime ∨ a.createTime = b.createTime ∧ a.id < b.id) ∧
      (∀ g, g ∈ all ↔ t.store.groups.get? g.id = some g) ∧
      PageOf r all page ∧
      Leads (Groups.list r) t.store (.ok page) t.store ∧
      OnHosts t.store (Groups.list r)
        (if r.offset < signedLimit then .ok page else .error (.skipTooLarge r.offset))) ∧
    ∀ {c : Caller} {u : String}, c.id = some u → t.store.users.contains u →
      ∀ minimum : Option Role, ∃ (own : Namespace.View) (groups : List Group)
        (page : List Namespace.View × Page.Summary),
        own.kind = .user ∧ own.createdBy = u ∧
        (groups.Pairwise fun a b =>
          a.createTime < b.createTime ∨ a.createTime = b.createTime ∧ a.id < b.id) ∧
        (∀ g, g ∈ groups ↔ t.store.groups.get? g.id = some g ∧
          ∃ role, t.store.HasRole u g.id role ∧ ∀ least, minimum = some least → least ≤ role) ∧
        PageOf r (own :: groups.map Group.view) page ∧
        (∀ σ, (alone (Namespaces.list c r minimum) t.store σ).1 = .ok page) ∧
        OnHosts t.store (Namespaces.list c r minimum)
          (if groups = [] ∨ r.offset ≤ signedLimit then .ok page
          else .error (.skipTooLarge (r.offset - 1))) := by
  have hs : t.store.Kept := ht.kept.1
  constructor
  · have hcount : t.store.groups.size < UInt64.size := Nat.lt_of_lt_of_le hsize (Nat.sub_le ..)
    have hwindow : t.store.pageGroups r.offset r.perPage = r.shown (allGroups t.store) :=
      Store.window_offset r (length_allGroups t.store ▸ hcount)
    refine ⟨allGroups t.store, groupsShown t.store r, pairwise_allGroups hs.slugs.groups,
      fun g => mem_allGroups hs.slugs.groups, pageOf_summary r (toNat_countGroups hcount),
      alone_listGroups hcount r, ?_⟩
    rw [groupsShown, ← hwindow]
    exact onHosts_listGroups hs r
  · intro c u hu hthere minimum
    obtain ⟨old, hknown⟩ := Table.contains_iff.mp hthere
    have hlength : (groupsOf t.store u minimum).length < UInt64.size - 1 :=
      Nat.lt_of_le_of_lt length_groupsOf_le hsize
    exact ⟨(old.refreshed c 0).view, groupsOf t.store u minimum,
      listed t.store (old.refreshed c 0) u minimum r, rfl,
      show old.id = u from hs.slugs.users hknown,
      pairwise_groupsOf hs.slugs, fun g => mem_groupsOf hs.slugs,
      pageOf_summary r (toNat_ofNat_length _ hlength),
      alone_listNamespaces hs.slugs hu hknown r hlength,
      onHosts_listNamespaces hs hu hknown r hlength⟩

/-- The world after a user has made a group. -/
def adaWithLab : World :=
  let known := (alone (Users.ensure { id := some "ada" }) default .counting).2
  (alone (Groups.create { id := some "ada" } ⟨"Lab", "lab", none⟩) known.store known.supply).2

theorem reached_adaWithLab : adaWithLab.Reached desk :=
  (World.reached_counting desk).alone (.ensureUser { id := some "ada" })
    |>.alone (.createGroup { id := some "ada" } ⟨"Lab", "lab", none⟩)

/-- A page for one record begins as far behind as a command cannot say any more. -/
theorem exists_farPage :
    ∃ r, Page.Request.of 9223372036854775809 1 = .ok r ∧ r.offset = signedLimit :=
  ⟨_, rfl, by decide⟩

/-- A document server holds the user and the group. -/
theorem exists_mirrored_adaWithLab :
    ∃ w : Document.Server,
      Mirrored Document.Server.host ⟨w, 0, 0, []⟩ adaWithLab.store := by
  let calls : List Call :=
    [.insertUser { id := "ada", namespaceId := Ulid.text 0 0, slug := "ada" },
      .insertGroup ⟨Ulid.text 1 0, "Lab", "lab", none, "ada", 1, 1⟩
        (.new (Ulid.text 1 0) "ada" .owner 1)]
  have hserved : Store.ServedFrom [] calls := by
    refine ⟨⟨trivial, Store.newTo_nil⟩, ⟨⟨Ulid.shaped_text 1 0, Store.madeFor_new ..⟩, ?_⟩, trivial⟩
    intro d hd kind
    obtain rfl := List.mem_singleton.mp hd
    have hids : Ulid.text 0 0 ≠ Ulid.text 1 0 := by decide
    simp [Call.brings?, hids]
  have hstore : Memory.after {} calls = adaWithLab.store := by decide +kernel
  obtain ⟨w, hsaved, hm⟩ := Store.exists_server_of_served hserved (by decide +kernel)
  rw [hstore] at hm
  exact ⟨w, hsaved, hm⟩

/-- On the same page a document server refuses the groups, and shows the namespaces of their maker
as they are in memory. -/
theorem far_pages_of_adaWithLab :
    ∃ r, Page.Request.of 9223372036854775809 1 = .ok r ∧
      ∃ w : Document.Server, let st : Stage Document.Server := ⟨w, 0, 0, []⟩
        Mirrored Document.Server.host st adaWithLab.store ∧
        (st.runPlain (backend Document.Server.host) (Groups.list r)).1 =
          .error (.skipTooLarge 9223372036854775808) ∧
        (st.runPlain (backend Document.Server.host)
            (Namespaces.list { id := some "ada" } r none)).1 =
          (alone (Namespaces.list { id := some "ada" } r none) adaWithLab.store .counting).1 := by
  obtain ⟨-, fs, hreached⟩ := reached_adaWithLab
  obtain ⟨w, hm⟩ := exists_mirrored_adaWithLab
  have hsize : adaWithLab.store.groups.size < UInt64.size - 1 := by decide +kernel
  have hknown : adaWithLab.store.users.contains "ada" := by decide +kernel
  obtain ⟨r, hr, hoffset⟩ := exists_farPage
  obtain ⟨⟨all, page, -, -, -, -, hgroups⟩, hlist⟩ :=
    pages_served_within_signed_limit hreached hsize r
  obtain ⟨own, groups, page', -, -, -, -, -, hmemory, hnamespaces⟩ :=
    hlist (c := { id := some "ada" }) rfl hknown none
  rw [hoffset, if_neg (by decide)] at hgroups
  rw [hoffset, if_pos (.inr (by decide))] at hnamespaces
  exact ⟨r, hr, w, hm, hgroups Document.Server.lawful_host hm,
    (hnamespaces Document.Server.lawful_host hm).trans (hmemory .counting).symm⟩

/-- The first page that begins too far behind is refused by an empty document server, and shown in
memory. -/
theorem far_page_refused :
    ∃ r, Page.Request.of 9223372036854775809 1 = .ok r ∧
      let st : Stage Document.Server := ⟨default, 0, 0, []⟩
      Mirrored Document.Server.host st {} ∧
        (st.runPlain (backend Document.Server.host) (Groups.list r)).1 =
          .error (.skipTooLarge 9223372036854775808) ∧
        (alone (Groups.list r) {} .counting).1 = .ok ([], ⟨9223372036854775809, 1, 0, 0⟩) := by
  refine ⟨_, rfl, ⟨rfl, .empty fun c => by cases c <;> rfl⟩, rfl, ?_⟩
  obtain ⟨w, hmemory, -⟩ := alone_listGroups (s := {}) (by decide) _ .counting
  have hnone : allGroups {} = [] := List.length_eq_zero_iff.mp (length_allGroups {})
  rw [hmemory, groupsShown, hnone]
  rfl

end Service

end Roster
