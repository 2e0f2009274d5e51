/-
# All groups, page by page

The list of groups is asked for in two calls, one for its length and one for a window of
it.  For a request alone both see the same store, and the window is the page that was
asked for (`window_offset`).  That the pages are the list without gaps and repetitions
rests on the order of the groups: creation time and id leave no two groups in one place,
so each page is cut from the same list, however the groups were taken from their table.
-/
import Roster.Proofs.Service.Requests
import Roster.Proofs.Store.Sorted

namespace Roster.Service

open Store (Memory groupKey sortOn window)

variable {s : Memory}

/-- All groups in the order of lists. -/
def allGroups (s : Memory) : List Group := sortOn groupKey s.groups.values

theorem length_allGroups (s : Memory) : (allGroups s).length = s.groups.size := by
  rw [allGroups, (Store.sortOn_perm _ _).length_eq, Table.length_values]

theorem mem_allGroups (hs : s.groups.Keyed Group.id) {g : Group} :
    g ∈ allGroups s ↔ s.groups.get? g.id = some g := by
  rw [allGroups, (Store.sortOn_perm _ _).mem_iff, hs.mem_values_iff]

/-- The groups stand in strictly ascending order, so none of them stands there twice. -/
theorem pairwise_allGroups (hs : s.groups.Keyed Group.id) :
    (allGroups s).Pairwise fun a b => (groupKey a).Precedes (groupKey b) :=
  Store.pairwise_precedes_sortOn (Store.pairwise_groupKey_ne hs)

theorem toNat_countGroups (hsize : s.groups.size < UInt64.size) :
    s.countGroups.toNat = (allGroups s).length := by
  rw [length_allGroups]
  exact UInt64.toNat_ofNat_of_lt' hsize

/-- The answer to a request for a page of the list. -/
abbrev groupsShown (s : Memory) (r : Page.Request) : List Group × Page.Summary :=
  (r.shown (allGroups s), r.summary s.countGroups)

/-- A request for a page is answered from the list, and the store stays as it is. -/
theorem alone_listGroups (hsize : s.groups.size < UInt64.size) (r : Page.Request) (σ : Supply) :
    ∃ w, alone (Groups.list r) s σ = (.ok (groupsShown s r), w) ∧ w.store = s := by
  have hwindow : s.pageGroups r.offset r.perPage = r.shown (allGroups s) :=
    Store.window_offset r (length_allGroups s ▸ hsize)
  unfold alone Groups.list
  rw [run_call]
  simp only [Store.Memory.answer]
  rw [run_call]
  simp only [Store.Memory.answer, World.after, World.answer, hwindow]
  exact ⟨_, rfl, rfl⟩

/-- **All groups are listed page by page**: whatever groups the store holds under their ids, each
request shows its part of one list, also where its offset is cut off, and the pages in turn are
the list without gaps and repetitions.  In which order the groups are taken from their table
makes no difference. -/
theorem groups_listed_page_by_page (hs : s.groups.Keyed Group.id)
    (hsize : s.groups.size < UInt64.size) (σ : Supply) :
    ∃ all : List Group,
      (all.Pairwise fun a b =>
        a.createTime < b.createTime ∨ a.createTime = b.createTime ∧ a.id < b.id) ∧
      (∀ g, g ∈ all ↔ s.groups.get? g.id = some g) ∧ all.length = s.groups.size ∧
      (∀ page perPage : UInt64, 1 ≤ page.toNat → 1 ≤ perPage.toNat → perPage.toNat ≤ 100 →
        ∃ r shown total totalPages w, Page.Request.of page perPage = .ok r ∧
          alone (Groups.list r) s σ = (.ok (shown, ⟨page, perPage, total, totalPages⟩), w) ∧
          w.store = s ∧
          shown = (all.drop ((page.toNat - 1) * perPage.toNat)).take perPage.toNat ∧
          total.toNat = all.length ∧
          totalPages.toNat = Page.pages all.length perPage.toNat ∧
          (Page.pages all.length perPage.toNat < page.toNat → shown = []) ∧
          ∀ taken : List Group, taken.Perm s.groups.values →
            window r.offset r.perPage (sortOn groupKey taken) = shown) ∧
      ∀ perPage : UInt64, 1 ≤ perPage.toNat → perPage.toNat ≤ 100 →
        ∃ (asked : List Page.Request) (answers : List (List Group × Page.Summary)),
          (∀ r ∈ asked, r.perPage = perPage) ∧
          asked.map (·.page.toNat) = List.range' 1 (Page.pages all.length perPage.toNat) ∧
          inTurn (asked.map Groups.list) s σ = (answers.map .ok, s) ∧
          answers.flatMap (·.1) = all := by
  have hlength : (allGroups s).length < UInt64.size := length_allGroups s ▸ hsize
  have htotal := toNat_countGroups hsize
  refine ⟨allGroups s, pairwise_allGroups hs, fun g => mem_allGroups hs, length_allGroups s, ?_, ?_⟩
  · intro page perPage hpage hpos hle
    obtain ⟨r, hr, rfl, rfl⟩ := Page.Request.exists_of hpage hpos hle
    obtain ⟨w, hw, hstore⟩ := alone_listGroups hsize r σ
    refine ⟨r, _, _, _, w, hr, hw, hstore, rfl, htotal, ?_, Page.slice_eq_nil hpos, ?_⟩
    · rw [Page.toNat_totalPages hpos, htotal]
    · intro taken htaken
      rw [Store.sortOn_eq_of_perm htaken (Store.pairwise_groupKey_ne hs)]
      exact Store.window_offset r hlength
  · intro perPage hpos hle
    obtain ⟨asked, hperPage, hpages⟩ := Page.exists_requests hpos hle hlength
    refine ⟨asked, asked.map (groupsShown s), hperPage, hpages, ?_, ?_⟩
    · rw [inTurn_of_unchanged (alone_listGroups hsize), List.map_map]
      rfl
    · rw [List.flatMap_map]
      exact Page.flatMap_shown hpos (fun r hr => congrArg UInt64.toNat (hperPage r hr)) hpages

/-- Two groups of one second are listed by their ids. -/
theorem groups_of_one_second_listed :
    let lab : Group := { id := "b", slug := "lab", createTime := 5 }
    let den : Group := { id := "c", slug := "den", createTime := 5 }
    let s : Memory := { (default : Memory) with
      groups := ((default : Table Group).insert "c" den).insert "b" lab }
    s.groups.Keyed Group.id ∧ s.groups.size < UInt64.size ∧
      ∃ r, Page.Request.of 2 1 = .ok r ∧
        (alone (Groups.list r) s .counting).1 = .ok ([den], ⟨2, 1, 2, 2⟩) := by
  intro lab den s
  have hempty : (default : Table Group).Keyed Group.id := Table.keyed_empty
  have hden : ((default : Table Group).insert "c" den).Keyed Group.id :=
    hempty.insert (show den.id = "c" from rfl)
  have hkeyed : s.groups.Keyed Group.id := hden.insert (show lab.id = "b" from rfl)
  have hsize : s.groups.size < UInt64.size := by decide
  obtain ⟨all, -, -, hlength, hpages, -⟩ := groups_listed_page_by_page hkeyed hsize .counting
  have htwo : all.length = 2 := hlength.trans (by decide)
  obtain ⟨r, shown, total, totalPages, w, hr, hw, -, -, htotal, hnumber, -, htaken⟩ :=
    hpages 2 1 (by decide) (by decide) (by decide)
  refine ⟨hkeyed, hsize, r, hr, ?_⟩
  have hshown : window r.offset r.perPage (sortOn groupKey s.groups.values) = shown :=
    htaken _ (.refl _)
  have hvalues : s.groups.values = [lab, den] := by decide
  have hsorted : sortOn groupKey s.groups.values = [lab, den] := by
    rw [hvalues]
    exact List.mergeSort_of_pairwise (by decide)
  have hden : [den] = shown := by
    cases hr
    rw [← hshown, hsorted]
    decide
  rw [htwo] at htotal hnumber
  have htotal' : total = 2 := UInt64.toNat_inj.mp htotal
  have hnumber' : totalPages = 2 := UInt64.toNat_inj.mp hnumber
  rw [hw, ← hden, htotal', hnumber']

end Roster.Service
