/-
# Lookups on a document server

What the store finds on a document server that mirrors a store in memory is what that
store finds.  A filter over documents is a condition on records, the documents that meet
it are read as the records that do, and a list in the order of the server is the list in
the order of its keys, because no two records share a key.
-/
import Roster.Proofs.Store.Exchanges
import Roster.Proofs.Store.Mirror
import Roster.Proofs.Store.Rows
import Roster.Proofs.Store.Sorted

namespace Roster.Store.Documents

open Document (Collection Command Value Holdings Carries cut meets leBy Condition)

/-! ## Filters -/

section Filters

variable {d e : Document} {name text : String}

theorem meets_is {o : Option String} (h : d.get name = .ofOption o) :
    meets (is name text) d ↔ o = some text := by
  simp only [meets, is, List.all_cons, List.all_nil, Bool.and_true, Condition.holds, h, beq_iff_eq]
  cases o with
  | none => exact ⟨nofun, nofun⟩
  | some s => exact ⟨fun he => by cases he; rfl, fun he => by cases he; rfl⟩

theorem meets_text {s : String} (h : d.get name = .text s) : meets (is name text) d ↔ s = text := by
  rw [meets_is (o := some s) h, Option.some.injEq]

theorem meets_isOneOf {texts : List String} (h : d.get name = .text text) :
    meets (isOneOf name texts) d ↔ text ∈ texts := by
  simp [meets, isOneOf, Condition.holds, h]

theorem meets_append {f g : Document.Filter} : meets (f ++ g) d ↔ meets f d ∧ meets g d := by
  simp only [meets, List.all_append, Bool.and_eq_true]

/-- Documents in order of a number and a text stand in the order of their keys. -/
theorem le_of_leBy {number word : String} {m n : Int} {s t : String}
    (hm : d.get number = .int m) (hs : d.get word = .text s) (hn : e.get number = .int n)
    (ht : e.get word = .text t) (h : leBy [number, word] d e) : SortKey.le (m, s) (n, t) := by
  rw [SortKey.le_iff]
  simp only [leBy, hm, hn, hs, ht, Value.int.injEq] at h
  by_cases hmn : m = n
  · rw [if_pos hmn] at h
    refine .inr ⟨hmn, ?_⟩
    split at h
    · next hst =>
        cases hst
        exact String.le_refl _
    · exact of_decide_eq_true h
  · rw [if_neg hmn] at h
    have hle : m ≤ n := of_decide_eq_true h
    exact .inl (by omega)

end Filters

/-! ## Finding documents -/

section Finding

variable {α : Type} {of : Document → Option α} {c : Collection} {filter : Document.Filter}
  {now : Holdings} {t : Table α} {q : α → Bool} {key : α → SortKey} {sort : List String}

theorem decode_eq_done {l : List Document} {records : List α} (h : l.map of = records.map some) :
    decode of l = .done records := by
  rw [decode, mapM_eq_some h]

theorem map_cut {skip limit : Option UInt64} {l : List Document} {records : List α}
    (h : l.map of = records.map some) :
    (cut skip limit l).map of = (cut skip limit records).map some := by
  cases limit <;> simp only [cut, List.map_take, List.map_drop, h]

/-- What the server finds are the values that meet the condition. -/
theorem found_records (hreads : Reads of (now c) t)
    (hq : ∀ d a, of d = some a → (meets filter d ↔ q a)) {found : List Document}
    (hfound : ↑found = (now c).filter (meets filter ·)) :
    ∃ records : List α, found.map of = records.map some ∧ records.Perm (t.values.filter q) := by
  rw [← Table.values_filter]
  exact (hreads.filter hq).records hfound

theorem found_sorted (hreads : Reads of (now c) t)
    (hq : ∀ d a, of d = some a → (meets filter d ↔ q a))
    (hsort : ∀ d e a b, of d = some a → of e = some b → leBy sort d e → (key a).le (key b))
    (hinj : ∀ a ∈ t.values, ∀ b ∈ t.values, q a → q b → key a = key b → a = b)
    {found : List Document} (hfound : ↑found = (now c).filter (meets filter ·))
    (hsorted : found.Pairwise fun d e => leBy sort d e) :
    found.map of = (sortOn key (t.values.filter q)).map some := by
  obtain ⟨records, hrecords, hperm⟩ := found_records hreads hq hfound
  have hin : records.Pairwise fun a b => (key a).le (key b) := by
    have hkeys : (found.map of).Pairwise fun o o' =>
        ∀ a b, o = some a → o' = some b → (key a).le (key b) :=
      List.pairwise_map.mpr (hsorted.imp fun {d e} hde a b ha hb => hsort d e a b ha hb hde)
    rw [hrecords, List.pairwise_map] at hkeys
    exact hkeys.imp fun {a b} h => h a b rfl rfl
  have heq : records = sortOn key (t.values.filter q) := by
    refine eq_sortOn hperm hin fun a ha b hb => ?_
    obtain ⟨ha, hqa⟩ := List.mem_filter.mp ha
    obtain ⟨hb, hqb⟩ := List.mem_filter.mp hb
    exact hinj a ha b hb hqa hqb
  rw [hrecords, heq]

/-- The first record that is found is the one there is. -/
theorem ensures_one {post : Ending (Option α)} (hreads : Reads of (now c) t)
    (hq : ∀ d a, of d = some a → (meets filter d ↔ q a))
    (hunique : ∀ a ∈ t.values, ∀ b ∈ t.values, q a → q b → a = b)
    (hpost : post (.ok (t.values.find? q)) now none) : Ensures post (one of c filter) now none := by
  refine ensures_single fun r now' hr => ?_
  obtain ⟨rfl, found, hfound, -, rfl⟩ := hr
  obtain ⟨records, hrecords, hperm⟩ := found_records hreads hq hfound
  show Ensures post (decode of (cut none (some 1) found) >>= _) now' none
  rw [decode_eq_done (map_cut hrecords)]
  have hhead : (cut none (some 1) records).head? = t.values.find? q := by
    show ((records.drop 0).take 1).head? = _
    rw [List.drop_zero, List.head?_take, if_neg Nat.one_ne_zero, ← List.head?_filter]
    cases records with
    | nil => rw [hperm.nil_eq]
    | cons a records =>
        cases hall : t.values.filter q with
        | nil => exact absurd (hall ▸ hperm).symm.nil_eq (List.cons_ne_nil _ _).symm
        | cons b rest =>
            have ha : a ∈ t.values.filter q := hperm.mem_iff.mp List.mem_cons_self
            have hb : b ∈ t.values.filter q := hall ▸ List.mem_cons_self
            obtain ⟨ha, hqa⟩ := List.mem_filter.mp ha
            obtain ⟨hb, hqb⟩ := List.mem_filter.mp hb
            exact congrArg some (hunique a ha b hb hqa hqb)
  show post (.ok (cut none (some 1) records).head?) now' none
  rw [hhead]
  exact hpost

/-- All records that are found, in order. -/
theorem ensures_all {post : Ending (List α)} (hreads : Reads of (now c) t)
    (hq : ∀ d a, of d = some a → (meets filter d ↔ q a))
    (hsort : ∀ d e a b, of d = some a → of e = some b → leBy sort d e → (key a).le (key b))
    (hinj : ∀ a ∈ t.values, ∀ b ∈ t.values, q a → q b → key a = key b → a = b)
    (hpost : post (.ok (sortOn key (t.values.filter q))) now none) :
    Ensures post (all of c filter sort) now none := by
  refine ensures_single fun r now' hr => ?_
  obtain ⟨rfl, found, hfound, hsorted, rfl⟩ := hr
  have hrecords := found_sorted hreads hq hsort hinj hfound (hsorted sort rfl)
  show Ensures post (decode of (cut none none found)) now' none
  rw [decode_eq_done (map_cut hrecords)]
  exact hpost

/-- All records that are found, whatever their order. -/
theorem ensures_all_perm {post : Ending (List α)} (hreads : Reads of (now c) t)
    (hq : ∀ d a, of d = some a → (meets filter d ↔ q a))
    (hpost : ∀ records : List α, records.Perm (t.values.filter q) → post (.ok records) now none) :
    Ensures post (all of c filter sort) now none := by
  refine ensures_single fun r now' hr => ?_
  obtain ⟨rfl, found, hfound, -, rfl⟩ := hr
  obtain ⟨records, hrecords, hperm⟩ := found_records hreads hq hfound
  show Ensures post (decode of (cut none none found)) now' none
  rw [decode_eq_done (map_cut hrecords)]
  exact hpost records hperm

/-- How many records are found. -/
theorem ensures_count {β : Type} {post : Ending β} {k : Nat → Exchange β}
    (hreads : Reads of (now c) t) (hq : ∀ d a, of d = some a → (meets filter d ↔ q a))
    (hpost : Ensures post (k (t.values.filter q).length) now none) :
    Ensures post (single (.count c filter) >>= k) now none := by
  refine ensures_single fun r now' hr => ?_
  obtain ⟨rfl, rfl⟩ := hr
  show Ensures post (k ((now' c).filter (meets filter ·)).card) now' none
  rw [(hreads.filter hq).card, Table.values_filter]
  exact hpost

end Finding

/-! ## The lookups of the store -/

/-- The exchange finds a value and changes nothing. -/
def Finds {α : Type} (now : Holdings) (a : α) : Ending α :=
  fun o now' before => o = .ok a ∧ now' = now ∧ before = none

/-- The exchange fails and changes nothing. -/
def Refuses {α : Type} (now : Holdings) (f : Fault) : Ending α :=
  fun o now' before => o = .error f ∧ now' = now ∧ before = none

/-- What is looked for by its own key is found where it stands. -/
theorem finds_key {α : Type} {of : Document → Option α} {c : Collection} {now : Holdings}
    {t : Table α} {key : α → String} {name : String} (hreads : Reads of (now c) t)
    (ht : t.Keyed key) (hkey : ∀ d a, of d = some a → d.get name = .text (key a)) (k : String) :
    Ensures (Finds now (t.get? k)) (one of c (is name k)) now none := by
  refine ensures_one (q := (key · == k)) hreads (fun d a hd => ?_) (fun a ha b hb hka hkb => ?_)
    ⟨congrArg Except.ok (ht.find?_values k), rfl, rfl⟩
  · rw [meets_text (hkey d a hd), beq_iff_eq]
  · exact ht.eq_of_key ha hb ((beq_iff_eq.mp hka).trans (beq_iff_eq.mp hkb).symm)

section Calls

variable {now : Holdings} {s : Memory} {filter : Document.Filter} {skip limit : UInt64}

theorem groupKey_le {d e : Document} {g h : Group} (hg : Group.ofDocument? d = some g)
    (hh : Group.ofDocument? e = some h) (hle : leBy byCreation d e) :
    (groupKey g).le (groupKey h) := by
  obtain ⟨hid, -, -, -, -, hcreated, -⟩ := Group.ofDocument?_eq_some_iff.mp hg
  obtain ⟨hid', -, -, -, -, hcreated', -⟩ := Group.ofDocument?_eq_some_iff.mp hh
  exact le_of_leBy hcreated hid hcreated' hid' hle

theorem userKey_le {d e : Document} {u v : User} (hu : User.ofDocument? d = some u)
    (hv : User.ofDocument? e = some v) (hle : leBy byCreation d e) :
    (userKey u).le (userKey v) := by
  obtain ⟨hid, -, -, -, -, -, hcreated, -⟩ := User.ofDocument?_eq_some_iff.mp hu
  obtain ⟨hid', -, -, -, -, -, hcreated', -⟩ := User.ofDocument?_eq_some_iff.mp hv
  exact le_of_leBy hcreated hid hcreated' hid' hle

theorem memberKey_le {d e : Document} {m n : Member} (hm : Member.ofDocument? d = some m)
    (hn : Member.ofDocument? e = some n) (hle : leBy ["create_time", "user_id"] d e) :
    (memberKey m).le (memberKey n) := by
  obtain ⟨-, -, huser, -, hcreated, -⟩ := Member.ofDocument?_eq_some_iff.mp hm
  obtain ⟨-, -, huser', -, hcreated', -⟩ := Member.ofDocument?_eq_some_iff.mp hn
  exact le_of_leBy hcreated huser hcreated' huser' hle

theorem sentLimit_of_lt (h : limit < signedLimit) : sentLimit limit = limit := if_pos h

/-- A part of a list is found, as long as the number to pass over can be sent; if nothing is asked
for, nothing is sent. -/
theorem finds_groupPage (hreads : Reads Group.ofDocument? (now .groups) s.groups)
    (hkeyed : s.groups.Keyed Group.id) {q : Group → Bool}
    (hq : ∀ d g, Group.ofDocument? d = some g → (meets filter d ↔ q g))
    (hfits : limit = 0 ∨ skip < signedLimit) :
    Ensures (Finds now (window skip (sentLimit limit) (sortOn groupKey (s.groups.values.filter q))))
      (groupPage filter skip limit) now none := by
  unfold groupPage
  split
  · next hzero =>
      subst hzero
      exact ⟨congrArg Except.ok List.take_zero.symm, rfl, rfl⟩
  · next hlimit =>
      rw [if_neg (UInt64.not_le.mpr (hfits.resolve_left hlimit))]
      refine ensures_single fun r now' hr => ?_
      obtain ⟨rfl, found, hfound, hsorted, rfl⟩ := hr
      have hrecords := found_sorted hreads hq (fun d e g h hg hh => groupKey_le hg hh)
        (fun g hg h hh _ _ hkey => hkeyed.eq_of_key hg hh (congrArg Prod.snd hkey)) hfound
        (hsorted byCreation rfl)
      show Ensures _ (decode Group.ofDocument? (cut (some skip) (some (sentLimit limit)) found))
        now' none
      rw [decode_eq_done (map_cut hrecords)]
      exact ⟨rfl, rfl, rfl⟩

/-- If it cannot be sent, nothing is found. -/
theorem refuses_groupPage (hlimit : limit ≠ 0) (hskip : signedLimit ≤ skip) :
    Ensures (Refuses now (.skipTooLarge skip)) (groupPage filter skip limit) now none := by
  unfold groupPage
  rw [if_neg hlimit, if_pos hskip]
  exact ⟨rfl, rfl, rfl⟩

theorem finds_countGroups (hm : Mirrors now s) :
    Ensures (Finds now s.countGroups) (plan .countGroups) now none := by
  refine ensures_count (q := fun _ => true) hm.groups (fun d g _ => ?_) ⟨?_, rfl, rfl⟩
  · simp [meets]
  · rw [List.filter_true, Table.length_values, Memory.countGroups]

theorem finds_pageGroups (hm : Mirrors now s) (hs : s.Kept)
    (hfits : limit = 0 ∨ skip < signedLimit) :
    Ensures (Finds now (s.pageGroups skip (sentLimit limit))) (plan (.pageGroups skip limit)) now
      none := by
  have hall : ∀ d g, Group.ofDocument? d = some g → (meets [] d ↔ (fun _ => true) g) :=
    fun d g _ => by simp [meets]
  have h := finds_groupPage hm.groups hs.slugs.groups hall hfits
  rw [List.filter_true] at h
  exact h

theorem finds_findGroup (hm : Mirrors now s) (hs : s.Kept) (slug : String) :
    Ensures (Finds now (s.findGroup slug)) (plan (.findGroup slug)) now none := by
  refine ensures_one (q := (·.slug == slug)) hm.groups (fun d g hg => ?_) ?_ ⟨rfl, rfl, rfl⟩
  · obtain ⟨-, -, hslug, -⟩ := Group.ofDocument?_eq_some_iff.mp hg
    rw [meets_text hslug, beq_iff_eq]
  · intro g hg h hh hslug hslug'
    rw [hs.slugs.groups.mem_values_iff] at hg hh
    have hparty := hs.slugs.party_eq (p := .group g) (q := .group h) hg hh
      ((beq_iff_eq.mp hslug).trans (beq_iff_eq.mp hslug').symm)
    cases hparty
    rfl

theorem finds_listMembers (hm : Mirrors now s) (hs : s.Kept) (groupId : String) :
    Ensures (Finds now (s.listMembers groupId)) (plan (.listMembers groupId)) now none := by
  refine ensures_all (q := (·.groupId == groupId)) hm.members (fun d m hd => ?_)
    (fun d e m n hd he => memberKey_le hd he) ?_ ⟨rfl, rfl, rfl⟩
  · obtain ⟨-, hgroup, -⟩ := Member.ofDocument?_eq_some_iff.mp hd
    rw [meets_text hgroup, beq_iff_eq]
  · -- Two members of one group are different users.
    intro m hm' n hn hgroup hgroup' hkey
    obtain ⟨k, hk⟩ := Table.mem_values_iff.mp hm'
    obtain ⟨k', hk'⟩ := Table.mem_values_iff.mp hn
    have hsame : m.groupId = n.groupId := (beq_iff_eq.mp hgroup).trans (beq_iff_eq.mp hgroup').symm
    exact (hs.rows.row_eq hk hk' hsame (congrArg Prod.snd hkey)).2

theorem finds_findMember (hm : Mirrors now s) (hs : s.Kept) (groupId userId : String) :
    Ensures (Finds now (s.findMember groupId userId)) (plan (.findMember groupId userId)) now
      none :=
  finds_key hm.members hs.rows.keyed (fun _ _ hd => (Member.ofDocument?_eq_some_iff.mp hd).1) _

theorem finds_findUser (hm : Mirrors now s) (hs : s.Kept) (id : String) :
    Ensures (Finds now (s.users.get? id)) (plan (.findUser id)) now none :=
  finds_key hm.users hs.slugs.users (fun _ _ hd => (User.ofDocument?_eq_some_iff.mp hd).1) id

theorem finds_findNamespace (hm : Mirrors now s) (hs : s.Kept) (slug : String) :
    Ensures (Finds now (s.namespaces.get? slug)) (plan (.findNamespace slug)) now none := by
  have hkeyed : s.namespaces.Keyed Namespace.slug := fun _ _ => hs.slugs.slug_of_entry
  exact finds_key hm.namespaces hkeyed
    (fun _ _ hd => (Namespace.ofDocument?_eq_some_iff.mp hd).2.1) slug

theorem userKey_inj (hs : s.SlugsKept) {u v : User} (hu : u ∈ s.users.values)
    (hv : v ∈ s.users.values) (h : userKey u = userKey v) : u = v :=
  hs.users.eq_of_key hu hv (congrArg Prod.snd h)

theorem finds_listUsers (hm : Mirrors now s) (hs : s.Kept) (email : Option String) :
    Ensures (Finds now (s.listUsers email)) (plan (.listUsers email)) now none := by
  cases email with
  | none =>
      refine ensures_all (q := fun _ => true) hm.users (fun d u _ => by simp [meets])
        (fun d e u v hd he => userKey_le hd he) (fun u hu v hv _ _ => userKey_inj hs.slugs hu hv)
        ⟨rfl, rfl, rfl⟩
  | some email =>
      refine ensures_all (q := fun u => u.email == some email) hm.users (fun d u hd => ?_)
        (fun d e u v hd he => userKey_le hd he) (fun u hu v hv _ _ => userKey_inj hs.slugs hu hv)
        ⟨rfl, rfl, rfl⟩
      obtain ⟨-, -, -, hemail, -⟩ := User.ofDocument?_eq_some_iff.mp hd
      rw [meets_is hemail, beq_iff_eq]

/-! ### Groups of a user -/

theorem role_name_inj : Function.Injective Role.name := by
  intro r r' h
  have hread := Role.ofName?_name r
  rw [h, Role.ofName?_name] at hread
  exact (Option.some.inj hread).symm

/-- What is done with the groups of a user depends on which they are, not on their order. -/
theorem ensures_memberGroupIds {β : Type} {post : Ending β} {k : List String → Exchange β}
    (hm : Mirrors now s) {userId : String} {roles : List Role}
    (hk : ∀ ids : List String, (∀ id, id ∈ ids ↔ id ∈ s.memberGroupIds userId roles) →
      Ensures post (k ids) now none) :
    Ensures post (memberGroupIds userId roles >>= k) now none := by
  unfold memberGroupIds
  rw [Plan.bind_assoc, ensures_bind]
  refine ensures_all_perm (q := fun m => m.userId == userId && roles.contains m.role) hm.members
    (fun d m hd => ?_) fun records hrecords => ?_
  · obtain ⟨-, -, huser, hrole, -⟩ := Member.ofDocument?_eq_some_iff.mp hd
    rw [meets_append, meets_text huser, meets_isOneOf hrole,
      List.mem_map_of_injective role_name_inj, Bool.and_eq_true, beq_iff_eq, List.contains_iff_mem]
  · exact hk _ fun id => (hrecords.map _).mem_iff

/-- The groups with one of the ids are those of the user. -/
theorem filter_memberGroups {userId : String} {roles : List Role} {ids : List String}
    (hids : ∀ id, id ∈ ids ↔ id ∈ s.memberGroupIds userId roles) :
    s.groups.values.filter (ids.contains ·.id) = s.memberGroups userId roles := by
  refine List.filter_congr fun g _ => ?_
  rw [Bool.eq_iff_iff, List.contains_iff_mem, List.contains_iff_mem, hids]

theorem memberGroups_eq_nil {userId : String} {roles : List Role} {ids : List String}
    (hids : ∀ id, id ∈ ids ↔ id ∈ s.memberGroupIds userId roles) (hempty : ids.isEmpty) :
    s.memberGroups userId roles = [] := by
  rw [← filter_memberGroups hids, List.isEmpty_iff.mp hempty]
  exact List.filter_false _

theorem meets_ids {ids : List String} {d : Document} {g : Group}
    (hg : Group.ofDocument? d = some g) : meets (isOneOf "_id" ids) d ↔ ids.contains g.id := by
  obtain ⟨hid, -⟩ := Group.ofDocument?_eq_some_iff.mp hg
  rw [meets_isOneOf hid, List.contains_iff_mem]

theorem finds_countMemberGroups (hm : Mirrors now s) (userId : String) (roles : List Role) :
    Ensures (Finds now (s.countMemberGroups userId roles)) (plan (.countMemberGroups userId roles))
      now none := by
  refine ensures_memberGroupIds hm fun ids hids => ?_
  split
  · next hempty =>
      refine ⟨?_, rfl, rfl⟩
      rw [Memory.countMemberGroups, memberGroups_eq_nil hids hempty]
      rfl
  · refine ensures_count hm.groups (fun d g hg => meets_ids hg) ⟨?_, rfl, rfl⟩
    rw [filter_memberGroups hids, Memory.countMemberGroups]

/-- Whoever is a member of a group has that group. -/
theorem memberGroups_ne_nil (hs : s.Kept) {userId : String} {roles : List Role} {ids : List String}
    (hids : ∀ id, id ∈ ids ↔ id ∈ s.memberGroupIds userId roles) (hsome : ¬ ids.isEmpty) :
    s.memberGroups userId roles ≠ [] := by
  obtain ⟨id, hid⟩ := List.exists_mem_of_ne_nil ids (mt List.isEmpty_iff.mpr hsome)
  obtain ⟨m, hm, rfl⟩ := List.mem_map.mp ((hids id).mp hid)
  obtain ⟨k, hk⟩ := Table.mem_values_iff.mp (List.mem_filter.mp hm).1
  obtain ⟨g, hg⟩ := Table.contains_iff.mp (hs.rows.group hk)
  have hgid : g.id = m.groupId := hs.slugs.groups hg
  refine List.ne_nil_of_mem (List.mem_filter.mpr ⟨Table.mem_values_iff.mpr ⟨_, hg⟩, ?_⟩)
  rw [hgid, List.contains_iff_mem]
  exact List.mem_map_of_mem hm

/-- A part of the list of groups of a user is found as a part of any other list, and always if the
user has no group: then no list is asked for. -/
theorem finds_pageMemberGroups (hm : Mirrors now s) (hs : s.Kept) (userId : String)
    (roles : List Role)
    (hfits : s.memberGroups userId roles = [] ∨ limit = 0 ∨ skip < signedLimit) :
    Ensures (Finds now (s.pageMemberGroups userId roles skip (sentLimit limit)))
      (plan (.pageMemberGroups userId roles skip limit)) now none := by
  refine ensures_memberGroupIds hm fun ids hids => ?_
  split
  · next hempty =>
      refine ⟨?_, rfl, rfl⟩
      rw [Memory.pageMemberGroups, memberGroups_eq_nil hids hempty]
      simp [window, sortOn]
  · next hsome =>
      have h := finds_groupPage hm.groups hs.slugs.groups (fun d g hg => @meets_ids ids d g hg)
        (hfits.resolve_left (memberGroups_ne_nil hs hids hsome))
      rw [filter_memberGroups hids] at h
      exact h

theorem refuses_pageMemberGroups (hm : Mirrors now s) {userId : String} {roles : List Role}
    (hgroups : s.memberGroups userId roles ≠ []) (hlimit : limit ≠ 0) (hskip : signedLimit ≤ skip) :
    Ensures (Refuses now (.skipTooLarge skip))
      (plan (.pageMemberGroups userId roles skip limit)) now none := by
  refine ensures_memberGroupIds hm fun ids hids => ?_
  split
  · next hempty => exact absurd (memberGroups_eq_nil hids hempty) hgroups
  · exact refuses_groupPage hlimit hskip

/-- The users with the given ids in the order of lists, each of them once. -/
def usersAmong (s : Memory) (ids : List String) : List User :=
  sortOn userKey (s.users.values.filter (ids.contains ·.id))

/-- They are the users that the store in memory finds for the ids, one after the other. -/
theorem mem_usersAmong (hs : s.SlugsKept) {ids : List String} {u : User} :
    u ∈ usersAmong s ids ↔ u ∈ s.findUsers ids := by
  rw [usersAmong, (sortOn_perm _ _).mem_iff, List.mem_filter, hs.users.mem_values_iff,
    List.contains_iff_mem, Memory.findUsers, List.mem_filterMap]
  constructor
  · rintro ⟨hu, hid⟩
    exact ⟨u.id, hid, hu⟩
  · rintro ⟨id, hid, hu⟩
    exact ⟨hs.users.get? hu, (hs.users hu).symm ▸ hid⟩

theorem finds_findUsers (hm : Mirrors now s) (hs : s.Kept) (ids : List String) :
    Ensures (Finds now (usersAmong s ids)) (plan (.findUsers ids)) now none := by
  show Ensures _ (findUsers ids) now none
  unfold findUsers
  split
  · next hempty =>
      refine ⟨?_, rfl, rfl⟩
      rw [usersAmong, List.isEmpty_iff.mp hempty]
      simp [sortOn]
  · refine ensures_all (q := fun u => ids.contains u.id) hm.users (fun d u hd => ?_)
      (fun d e u v hd he => userKey_le hd he)
      (fun u hu v hv _ _ => userKey_inj hs.slugs hu hv) ⟨rfl, rfl, rfl⟩
    obtain ⟨hid, -⟩ := User.ofDocument?_eq_some_iff.mp hd
    rw [meets_isOneOf hid, List.contains_iff_mem]

end Calls

end Roster.Store.Documents
