/-
# The order of lists

Five calls ask for lists of records, which are to come by creation time and then by id.  The
stores have their own ways to that order.  Groups and users are sorted by just these keys; the
members of a group are sorted by time and user, and since their ids all begin with the id of the
group, that is the same order (`Member.idOf_lt`).  Ids tell the records apart, so no two of them
share a place.

The one list that comes as it likes is that of users who are looked for by their ids, and only in
memory: it follows the request.  A document server lists these users as it lists all others.  It
has a limit of its own, the number of records that a command can pass over.
-/
import Roster.Proofs.Service.Rights
import Roster.Proofs.Store.Refinement

namespace Roster

/-- The memberships of one group stand in the order of their users. -/
theorem Member.idOf_lt {groupId u v : String} (h : u < v) :
    Member.idOf groupId u < Member.idOf groupId v := by
  rw [String.lt_iff] at h ⊢
  simp only [Member.idOf, String.toList_append, List.append_assoc]
  exact List.append_left_lt (List.append_left_lt h)

namespace Store

open Document (Host)

instance (a b : SortKey) : Decidable (a.Precedes b) := inferInstanceAs (Decidable (_ ∨ _))

/-! ## Lists of records -/

/-- The call asks for a list of records. -/
def Call.Lists : Call → Prop
  | .pageGroups .. | .listMembers _ | .pageMemberGroups .. | .findUsers _ | .listUsers _ => True
  | _ => False

/-- Creation time and id of the records that are listed, in the order of the list. -/
def Call.listed : (c : Call) → c.Answer → List SortKey
  | .pageGroups .., found => found.map fun g => (g.createTime, g.id)
  | .listMembers _, found => found.map fun m => (m.createTime, m.id)
  | .pageMemberGroups .., found => found.map fun g => (g.createTime, g.id)
  | .findUsers _, found => found.map fun u => (u.createTime, u.id)
  | .listUsers _, found => found.map fun u => (u.createTime, u.id)
  | _, _ => []

/-- How many records are passed over before the list begins. -/
def Call.skip? : Call → Option UInt64
  | .pageGroups skip _ | .pageMemberGroups _ _ skip _ => some skip
  | _ => none

/-- The list comes strictly by creation time and then by id, so no record is in it twice. -/
def Call.InOrder (c : Call) (a : c.Answer) : Prop := (c.listed a).Pairwise SortKey.Precedes

/-! ## Sorted records -/

theorem window_sublist {α : Type} (skip limit : UInt64) (l : List α) :
    (window skip limit l).Sublist l :=
  (List.take_sublist ..).trans (List.drop_sublist ..)

namespace Memory

variable {s : Memory} {groupId : String}

theorem mem_listMembers {m : Member} :
    m ∈ s.listMembers groupId ↔ (∃ k, s.members.get? k = some m) ∧ m.groupId = groupId := by
  rw [listMembers, (sortOn_perm _ _).mem_iff, List.mem_filter, Table.mem_values_iff, beq_iff_eq]

/-- No user has two memberships in one group. -/
theorem RowsKept.pairwise_userId_ne (hs : s.RowsKept) :
    (s.members.values.filter (·.groupId == groupId)).Pairwise fun m n => m.userId ≠ n.userId := by
  refine (hs.keyed.pairwise_values.filter _).imp_of_mem fun {m n} hm hn hlt huser => ?_
  obtain ⟨hm, hgroup⟩ := List.mem_filter.mp hm
  obtain ⟨hn, hgroup'⟩ := List.mem_filter.mp hn
  obtain ⟨k, hk⟩ := Table.mem_values_iff.mp hm
  obtain ⟨k', hk'⟩ := Table.mem_values_iff.mp hn
  have hsame := (beq_iff_eq.mp hgroup).trans (beq_iff_eq.mp hgroup').symm
  obtain ⟨-, rfl⟩ := hs.row_eq hk hk' hsame huser
  exact String.lt_irrefl _ hlt

/-- The members of a group come strictly by creation time and user. -/
theorem RowsKept.pairwise_listMembers (hs : s.RowsKept) (groupId : String) :
    (s.listMembers groupId).Pairwise fun m n => (memberKey m).Precedes (memberKey n) :=
  pairwise_precedes_sortOn <| hs.pairwise_userId_ne.imp fun hne hkey =>
    hne (congrArg Prod.snd hkey)

/-- So they come by creation time and id. -/
theorem RowsKept.inOrder_listMembers (hs : s.RowsKept) (groupId : String) :
    (Call.listMembers groupId).InOrder (s.listMembers groupId) := by
  refine List.pairwise_map.mpr ((hs.pairwise_listMembers groupId).imp_of_mem ?_)
  intro m n hm hn hlt
  obtain ⟨⟨k, hk⟩, hgroup⟩ := mem_listMembers.mp hm
  obtain ⟨⟨k', hk'⟩, hgroup'⟩ := mem_listMembers.mp hn
  refine hlt.imp_right (And.imp_right fun huser => ?_)
  show m.id < n.id
  rw [hs.id_eq hk, hs.id_eq hk', hgroup, hgroup']
  exact Member.idOf_lt huser

/-- A part of a sorted list of groups is in order. -/
theorem SlugsKept.pairwise_window (hs : s.SlugsKept) {groups : List Group}
    (hgroups : groups.Sublist s.groups.values) (skip limit : UInt64) :
    ((window skip limit (sortOn groupKey groups)).map groupKey).Pairwise SortKey.Precedes := by
  have hne := (pairwise_groupKey_ne hs.groups).sublist hgroups
  exact List.pairwise_map.mpr ((pairwise_precedes_sortOn hne).sublist (window_sublist skip limit _))

theorem SlugsKept.inOrder_pageGroups (hs : s.SlugsKept) (skip limit skip' limit' : UInt64) :
    (Call.pageGroups skip' limit').InOrder (s.pageGroups skip limit) :=
  hs.pairwise_window (.refl _) skip limit

theorem SlugsKept.inOrder_pageMemberGroups (hs : s.SlugsKept) (userId : String)
    (roles : List Role) (skip limit skip' limit' : UInt64) :
    (Call.pageMemberGroups userId roles skip' limit').InOrder
      (s.pageMemberGroups userId roles skip limit) :=
  hs.pairwise_window List.filter_sublist skip limit

/-- Sorted users are in order. -/
theorem SlugsKept.pairwise_userKey (hs : s.SlugsKept) (p : User → Bool) :
    ((sortOn userKey (s.users.values.filter p)).map userKey).Pairwise SortKey.Precedes := by
  refine List.pairwise_map.mpr (pairwise_precedes_sortOn ?_)
  refine (hs.users.pairwise_values.filter p).imp ?_
  exact fun hlt hkey => String.ne_of_lt hlt (congrArg Prod.snd hkey)

/-- **Lists in memory are in order**, but for users who are looked for by their ids. -/
theorem Kept.inOrder (hs : s.Kept) {c : Call} (hc : c.Lists) (hids : ∀ ids, c ≠ .findUsers ids) :
    ∃ a, (answer c s).1 = .ok a ∧ c.InOrder a := by
  cases c with
  | pageGroups skip limit => exact ⟨_, rfl, hs.slugs.inOrder_pageGroups skip limit _ _⟩
  | listMembers groupId => exact ⟨_, rfl, hs.rows.inOrder_listMembers groupId⟩
  | pageMemberGroups userId roles skip limit =>
      exact ⟨_, rfl, hs.slugs.inOrder_pageMemberGroups userId roles skip limit _ _⟩
  | findUsers ids => exact absurd rfl (hids ids)
  | listUsers email => exact ⟨_, rfl, hs.slugs.pairwise_userKey _⟩
  | _ => exact hc.elim

end Memory

/-! ## On a document server -/

namespace Documents

open Document (Holdings)

variable {now : Holdings} {s : Memory}

/-- The exchange lists records in order, or cannot say how many to pass over. -/
def ListsInOrder (c : Call) : Ending c.Answer := fun o _ _ =>
  (∃ a, o = .ok a ∧ c.InOrder a) ∨
    ∃ skip, c.skip? = some skip ∧ signedLimit ≤ skip ∧ o = .error (.skipTooLarge skip)

theorem listsInOrder_of_finds {c : Call} {a : c.Answer}
    (h : Ensures (Finds now a) (plan c) now none) (ha : c.InOrder a) :
    Ensures (ListsInOrder c) (plan c) now none :=
  h.imp fun _ _ _ hends => .inl ⟨a, hends.1, ha⟩

theorem listsInOrder_of_refuses {c : Call} {skip : UInt64} (hc : c.skip? = some skip)
    (hskip : signedLimit ≤ skip)
    (h : Ensures (Refuses now (.skipTooLarge skip)) (plan c) now none) :
    Ensures (ListsInOrder c) (plan c) now none :=
  h.imp fun _ _ _ hends => .inr ⟨skip, hc, hskip, hends.1⟩

/-- **Lists of a document server are in order**, those of users who are looked for by their ids
included. -/
theorem ensures_listsInOrder (hm : Mirrors now s) (hs : s.Kept) {c : Call} (hc : c.Lists) :
    Ensures (ListsInOrder c) (plan c) now none := by
  cases c with
  | pageGroups skip limit =>
      by_cases hfits : limit = 0 ∨ skip < signedLimit
      · exact listsInOrder_of_finds (finds_pageGroups hm hs hfits)
          (hs.slugs.inOrder_pageGroups _ _ _ _)
      · obtain ⟨hlimit, hskip⟩ := not_or.mp hfits
        have hskip := UInt64.not_lt.mp hskip
        exact listsInOrder_of_refuses rfl hskip (refuses_groupPage hlimit hskip)
  | listMembers groupId =>
      exact listsInOrder_of_finds (finds_listMembers hm hs groupId)
        (hs.rows.inOrder_listMembers groupId)
  | pageMemberGroups userId roles skip limit =>
      by_cases hfits : s.memberGroups userId roles = [] ∨ limit = 0 ∨ skip < signedLimit
      · exact listsInOrder_of_finds (finds_pageMemberGroups hm hs userId roles hfits)
          (hs.slugs.inOrder_pageMemberGroups userId roles _ _ _ _)
      · obtain ⟨hgroups, hfits⟩ := not_or.mp hfits
        obtain ⟨hlimit, hskip⟩ := not_or.mp hfits
        have hskip := UInt64.not_lt.mp hskip
        exact listsInOrder_of_refuses rfl hskip
          (refuses_pageMemberGroups hm hgroups hlimit hskip)
  | findUsers ids =>
      exact listsInOrder_of_finds (finds_findUsers hm hs ids) (hs.slugs.pairwise_userKey _)
  | listUsers email =>
      exact listsInOrder_of_finds (finds_listUsers hm hs email) (hs.slugs.pairwise_userKey _)
  | _ => exact hc.elim

end Documents

/-! ## Both stores -/

section Stores

open Service (Traffic World desk alone)

/-- **Lists come strictly by creation time and id**, in any store that traffic can reach and on any
lawful host that holds the same records, whatever is asked for.  There are two exceptions.  In
memory, users who are looked for by their ids come in the order of the request, and as often as
they are asked for.  On a host no list is found if the records to pass over are too many to be
said in a command. -/
theorem lists_in_order_of_creation {t : Traffic desk} (ht : t.Reached) :
    (∀ c : Call, c.Lists → (∀ ids, c ≠ .findUsers ids) →
      ∃ a, (Memory.answer c t.store).1 = .ok a ∧ c.InOrder a) ∧
    (∀ ids, (Memory.answer (.findUsers ids) t.store).1 =
      .ok (ids.filterMap t.store.users.get?)) ∧
    ∀ {σ : Type} {H : Host σ} {w : σ}, H.Lawful → H.saved w = none → Mirrors (H.holds w) t.store →
      ∀ c : Call, c.Lists →
        (∃ a, ((Documents.plan c).run H.answer w).1 = .ok a ∧ c.InOrder a) ∨
        ∃ skip, c.skip? = some skip ∧ Documents.signedLimit ≤ skip ∧
          ((Documents.plan c).run H.answer w).1 = .error (.skipTooLarge skip) := by
  refine ⟨fun c hc hids => ht.kept.1.inOrder hc hids, fun _ => rfl, ?_⟩
  intro σ H w hH hsaved hm c hc
  exact (Documents.ensures_listsInOrder hm ht.kept.1 hc).run_alone hH hsaved

/-- The world after two users have come, one after the other. -/
def twoUsers : World :=
  let first := (alone (Service.Users.ensure { id := some "ada" }) default .counting).2
  (alone (Service.Users.ensure { id := some "bob" }) first.store first.supply).2

theorem reached_twoUsers : twoUsers.Reached desk :=
  (World.reached_counting desk).alone (.ensureUser { id := some "ada" })
    |>.alone (.ensureUser { id := some "bob" })

/-- A document server lists the two users by age, though the younger one is asked for first. -/
theorem users_listed_by_age :
    ∃ w : Document.Server, Mirrors (Document.Server.host.holds w) twoUsers.store ∧
      ∃ a, ((Documents.plan (.findUsers ["bob", "ada"])).run Document.Server.host.answer w).1 =
        .ok a ∧ (Call.findUsers ["bob", "ada"]).InOrder a := by
  obtain ⟨-, fs, hreached⟩ := reached_twoUsers
  let calls : List Call :=
    [.insertUser { id := "ada", namespaceId := Ulid.text 0 0, slug := "ada" },
      .insertUser
        { id := "bob", namespaceId := Ulid.text 1 0, slug := "bob", createTime := 1
          updateTime := 1 }]
  have hserved : ServedFrom [] calls := by
    refine ⟨⟨trivial, newTo_nil⟩, ⟨trivial, fun d hd kind => ?_⟩, trivial⟩
    obtain rfl := List.mem_singleton.mp hd
    have hids : Ulid.text 0 0 ≠ Ulid.text 1 0 := by decide
    simp [Call.brings?, hids]
  have hstore : Memory.after {} calls = twoUsers.store := by decide +kernel
  obtain ⟨w, hsaved, hm⟩ := exists_server_of_served hserved (by decide +kernel)
  rw [hstore] at hm
  obtain ⟨-, -, hlists⟩ := lists_in_order_of_creation hreached
  rcases hlists Document.Server.lawful_host hsaved hm (.findUsers ["bob", "ada"]) trivial with
    hfound | ⟨skip, hskip, -⟩
  · exact ⟨w, hm, hfound⟩
  · cases hskip

/-- In memory the same users come as they are asked for. -/
theorem users_listed_as_asked_for :
    twoUsers.Reached desk ∧
      ∃ a, (Memory.answer (.findUsers ["bob", "ada"]) twoUsers.store).1 = .ok a ∧
        ¬ (Call.findUsers ["bob", "ada"]).InOrder a := by
  refine ⟨reached_twoUsers, _, rfl, ?_⟩
  show ¬ ((Call.findUsers ["bob", "ada"]).listed
    (twoUsers.store.findUsers ["bob", "ada"])).Pairwise _
  decide +kernel

end Stores

end Store

end Roster
