/-
# Writes on a document server

The store in memory looks before it writes; the store on a document server writes, and the
unique indexes speak up.  Both refuse the same calls: a document clashes with another one
exactly if the store in memory has a reason to refuse, because the keys of the tables are
tied to each other (`SlugsKept`, `RowsKept`) and ids are given out once (`Brought`).
Where a call is refused after part of it was written, the transaction takes that back.
-/
import Roster.Proofs.Store.Exchanges
import Roster.Proofs.Store.Groups
import Roster.Proofs.Store.Ids
import Roster.Proofs.Store.Lookups

namespace Roster.Store.Documents

open Document (Collection Command Refusal Value Holdings Carries Placed Clashes cut meets sameIn)

/-! ## Clashes -/

section Clashes

variable {α : Type} {of : Document → Option α} {d e : Document} {others : Multiset Document}
  {c : Collection}

theorem clashes_iff {t : Table α} (h : Reads of others t) {R : α → Prop}
    (hsame : ∀ e b, of e = some b → ((∃ fields ∈ c.uniqueKeys, sameIn fields d e) ↔ R b)) :
    Clashes c d others ↔ ∃ k b, t.get? k = some b ∧ R b := by
  constructor
  · rintro ⟨fields, hfields, e, he, hin⟩
    obtain ⟨k, b, hk, hb⟩ := h.value he
    exact ⟨k, b, hk, (hsame e b hb).mp ⟨fields, hfields, hin⟩⟩
  · rintro ⟨k, b, hk, hR⟩
    obtain ⟨e, he, hb⟩ := h.document hk
    obtain ⟨fields, hfields, hin⟩ := (hsame e b hb).mpr hR
    exact ⟨fields, hfields, e, he, hin⟩

theorem clashes_groups_iff {t : Table Group} (h : Reads Group.ofDocument? others t) {g : Group}
    (hd : Group.ofDocument? d = some g) :
    Clashes .groups d others ↔ ∃ k b, t.get? k = some b ∧ (g.id = b.id ∨ g.slug = b.slug) := by
  obtain ⟨hid, -, hslug, -⟩ := Group.ofDocument?_eq_some_iff.mp hd
  refine clashes_iff h fun e b he => ?_
  obtain ⟨hid', -, hslug', -⟩ := Group.ofDocument?_eq_some_iff.mp he
  simp [Collection.uniqueKeys, Collection.indexes, sameIn, hid, hid', hslug, hslug']

theorem clashes_members_iff {t : Table Member} (h : Reads Member.ofDocument? others t) {m : Member}
    (hd : Member.ofDocument? d = some m) :
    Clashes .members d others ↔ ∃ k b, t.get? k = some b ∧
      (m.id = b.id ∨ m.groupId = b.groupId ∧ m.userId = b.userId) := by
  obtain ⟨hid, hgroup, huser, -⟩ := Member.ofDocument?_eq_some_iff.mp hd
  refine clashes_iff h fun e b he => ?_
  obtain ⟨hid', hgroup', huser', -⟩ := Member.ofDocument?_eq_some_iff.mp he
  simp [Collection.uniqueKeys, Collection.indexes, sameIn, hid, hid', hgroup, hgroup', huser, huser']

theorem clashes_namespaces_iff {t : Table Namespace} (h : Reads Namespace.ofDocument? others t)
    {n : Namespace} (hd : Namespace.ofDocument? d = some n) :
    Clashes .namespaces d others ↔ ∃ k b, t.get? k = some b ∧ (n.id = b.id ∨ n.slug = b.slug) := by
  obtain ⟨hid, hslug, -⟩ := Namespace.ofDocument?_eq_some_iff.mp hd
  refine clashes_iff h fun e b he => ?_
  obtain ⟨hid', hslug', -⟩ := Namespace.ofDocument?_eq_some_iff.mp he
  simp [Collection.uniqueKeys, Collection.indexes, sameIn, hid, hid', hslug, hslug']

theorem clashes_users_iff {t : Table User} (h : Reads User.ofDocument? others t) {u : User}
    (hd : User.ofDocument? d = some u) :
    Clashes .users d others ↔ ∃ k b, t.get? k = some b ∧ u.id = b.id := by
  obtain ⟨hid, -⟩ := User.ofDocument?_eq_some_iff.mp hd
  refine clashes_iff h fun e b he => ?_
  obtain ⟨hid', -⟩ := User.ofDocument?_eq_some_iff.mp he
  simp [Collection.uniqueKeys, Collection.indexes, sameIn, hid, hid']

end Clashes

/-! ## Changes in one collection -/

section Changes

variable {α : Type} {of : Document → Option α} {c : Collection} {filter : Document.Filter}
  {changes : Document} {onInsert : Option Document} {now now' : Holdings} {t : Table α} {k : String}
  {a a' : α} {r : Except Refusal Nat}

/-- Where records stand under their ids, the document with an id holds what stands under it. -/
theorem meets_key {key : α → String} (ht : t.Keyed key)
    (hid : ∀ d a, of d = some a → d.get "_id" = .text (key a)) (id : String) :
    ∀ j d b, t.get? j = some b → of d = some b → (meets (is "_id" id) d ↔ j = id) := by
  intro j d b hb hd
  rw [meets_text (hid d b hd), ht hb]

theorem unmet_of_none (hk : t.get? k = none)
    (hmeets : ∀ j d b, t.get? j = some b → of d = some b → (meets filter d ↔ j = k)) :
    ∀ j d b, t.get? j = some b → of d = some b → ¬ meets filter d := by
  intro j d b hb hd hmet
  rw [(hmeets j d b hb hd).mp hmet, hk] at hb
  cases hb

/-- An update by which one record is met: its document is taken out, changed and put back. -/
theorem carries_update_met (hreads : Reads of (now c) t) (hk : t.get? k = some a)
    (hmeets : ∀ j d b, t.get? j = some b → of d = some b → (meets filter d ↔ j = k))
    (hchanged : ∀ d, of d = some a → of (d.putAll changes) = some a')
    (hr : Carries (.update c filter changes onInsert) now r now') :
    ∃ d others, of d = some a' ∧ Reads of others (t.erase k) ∧ Placed c now d others 1 r now' := by
  rcases hr with ⟨d, hd, hmet, hplaced⟩ | ⟨hnone, -⟩
  · obtain ⟨j, b, hj, hb⟩ := hreads.value hd
    obtain rfl := (hmeets j d b hj hb).mp hmet
    cases hk.symm.trans hj
    exact ⟨_, _, hchanged d hb, hreads.erase hd hb hk, hplaced⟩
  · obtain ⟨d, hd, ha⟩ := hreads.document hk
    exact absurd ((hmeets k d a hk ha).mpr rfl) (hnone d hd)

/-- An update by which no record is met changes nothing. -/
theorem carries_update_unmet (hreads : Reads of (now c) t)
    (hmeets : ∀ j d b, t.get? j = some b → of d = some b → ¬ meets filter d)
    (hr : Carries (.update c filter changes none) now r now') : r = .ok 0 ∧ now' = now := by
  rcases hr with ⟨d, hd, hmet, -⟩ | ⟨-, hsame⟩
  · obtain ⟨j, b, hj, hb⟩ := hreads.value hd
    exact absurd hmet (hmeets j d b hj hb)
  · exact hsame

/-- An update by which no record is met, but which may add one. -/
theorem carries_upsert_unmet {more : Document} (hreads : Reads of (now c) t)
    (hmeets : ∀ j d b, t.get? j = some b → of d = some b → ¬ meets filter d)
    (hr : Carries (.update c filter changes (some more)) now r now') :
    Placed c now (((Document.ofFilter filter).putAll more).putAll changes) (now c) 0 r now' := by
  rcases hr with ⟨d, hd, hmet, -⟩ | ⟨-, hplaced⟩
  · obtain ⟨j, b, hj, hb⟩ := hreads.value hd
    exact absurd hmet (hmeets j d b hj hb)
  · exact hplaced

/-- Taking documents away takes the records away that they hold. -/
theorem carries_delete (hreads : Reads of (now c) t) {q : α → Bool}
    (hq : ∀ d a, of d = some a → (meets filter d ↔ q a)) {r : Except Refusal Nat}
    (hr : Carries (.delete c filter) now r now') :
    r = .ok (t.values.filter q).length ∧ ∃ ds, now' = Function.update now c ds ∧
      Reads of ds (t.filter fun _ a => !q a) := by
  obtain ⟨rfl, rfl⟩ := hr
  refine ⟨?_, _, rfl, hreads.filter fun d a ha => ?_⟩
  · rw [(hreads.filter hq).card, Table.values_filter]
  · rw [hq d a ha, Bool.not_eq_true, Bool.not_eq_true']

end Changes

/-! ## Adding records -/

/-- The outcome of a write, and the documents that mirror what the store in memory has become. -/
def Follows {α : Type} (o : Except Fault α) (s : Memory) : Ending α :=
  fun o' now before => o' = o ∧ Mirrors now s ∧ before = none

/-- Within a transaction, the outcome of a write, with the documents for it unless it fails. -/
def Follows.Within (back : Holdings) (r : Except Fault Memory) : Ending Unit := fun o now before =>
  before = some back ∧ match r with
    | .ok s' => o = .ok () ∧ Mirrors now s'
    | .error f => o = .error f

section Writes

variable {now : Holdings} {s : Memory} {past : List Call}

theorem follows_transaction {body : Exchange Unit} {r : Except Fault Memory} (hm : Mirrors now s)
    (h : Ensures (Follows.Within now r) body now none) :
    Ensures (Follows (s.written r).1 (s.written r).2) (transaction body) now none := by
  refine ensures_transaction (h.imp fun o now' before hends => ?_)
  obtain ⟨hopen, hends⟩ := hends
  refine ⟨hopen, ?_⟩
  cases r with
  | ok s' =>
      obtain ⟨rfl, hm'⟩ := hends
      exact ⟨rfl, hm', rfl⟩
  | error f =>
      cases hends
      exact ⟨rfl, hm, rfl⟩

theorem duplicate_eq {f : Fault} {e : Refusal} (he : e.isDuplicateKey) : duplicate f e = f :=
  if_pos he

/-- The entry of a group or a user clashes exactly if its slug is taken: its id is new. -/
theorem clashes_newEntry_iff (hm : Mirrors now s) (hs : s.Kept) (hids : s.Brought past)
    {n : Namespace} (hnew : NewTo past n.id) :
    Clashes .namespaces n.toDocument (now .namespaces) ↔ s.namespaces.contains n.slug := by
  rw [clashes_namespaces_iff hm.namespaces n.ofDocument?_toDocument, Table.contains_iff]
  constructor
  · rintro ⟨k, b, hb, hid | hslug⟩
    · exact absurd hid.symm (hids.id_ne hnew hb)
    · rw [← hslug.trans (hs.slugs.slug_of_entry hb)] at hb
      exact ⟨b, hb⟩
  · rintro ⟨b, hb⟩
    exact ⟨_, b, hb, .inr (hs.slugs.slug_of_entry hb).symm⟩

theorem follows_insertUser (hm : Mirrors now s) (hs : s.Kept) (hids : s.Brought past) {u : User}
    (hnew : NewTo past u.namespaceId) :
    Ensures (Follows (Memory.answer (.insertUser u) s).1 (Memory.answer (.insertUser u) s).2)
      (plan (.insertUser u)) now none := by
  refine follows_transaction hm ?_
  have hentry := clashes_newEntry_iff hm hs hids (n := u.namespace) hnew
  unfold Memory.insertUser
  refine ensures_placed (fun r now' hr => hr) (fun hclash e now' he => ?_) fun hfree => ?_
  · have hslug : s.namespaces.contains u.slug := hentry.mp hclash
    rw [if_pos hslug, duplicate_eq he]
    exact ⟨rfl, rfl⟩
  · have hslug : ¬ s.namespaces.contains u.slug := fun h => hfree (hentry.mpr h)
    have hm' := hm.set_namespaces
      (hm.namespaces.insert u.namespace.ofDocument?_toDocument (Table.not_contains_iff.mp hslug))
    have huser : Clashes .users u.toDocument
        (Function.update now .namespaces (u.namespace.toDocument ::ₘ now .namespaces) .users) ↔
          s.users.contains u.id := by
      rw [clashes_users_iff hm'.users u.ofDocument?_toDocument, Table.contains_iff]
      constructor
      · rintro ⟨k, b, hb, hid⟩
        rw [← hid.trans (hs.slugs.users hb)] at hb
        exact ⟨b, hb⟩
      · rintro ⟨b, hb⟩
        exact ⟨_, b, hb, (hs.slugs.users hb).symm⟩
    rw [if_neg hslug, ← Plan.bind_done (within _ _)]
    refine ensures_placed (fun r now' hr => hr) (fun hclash e now' he => ?_) fun hfree => ?_
    · rw [if_pos (huser.mp hclash), duplicate_eq he]
      exact ⟨rfl, rfl⟩
    · have hid : ¬ s.users.contains u.id := fun h => hfree (huser.mpr h)
      rw [if_neg hid]
      refine ⟨rfl, rfl, ?_⟩
      exact hm'.set_users (hm'.users.insert u.ofDocument?_toDocument (Table.not_contains_iff.mp hid))

theorem follows_insertGroup (hm : Mirrors now s) (hs : s.Kept) (hids : s.Brought past) {g : Group}
    {owner : Member} (hshaped : Ulid.Shaped g.id) (howner : MadeFor g.id owner)
    (hnew : NewTo past g.id) :
    Ensures (Follows (Memory.answer (.insertGroup g owner) s).1
      (Memory.answer (.insertGroup g owner) s).2) (plan (.insertGroup g owner)) now none := by
  refine follows_transaction hm ?_
  have hentry := clashes_newEntry_iff hm hs hids (n := g.namespace) hnew
  have hid : ¬ s.groups.contains g.id := hids.not_contains hs.slugs hnew
  -- There is no membership in it, and none in the place of the owner's.
  have hmember : ∀ {k b}, s.members.get? k = some b → b.groupId ≠ g.id := by
    rintro k b hb he
    exact hid (he ▸ hs.rows.group hb)
  have howner' : s.members.get? owner.id = none := by
    refine Option.eq_none_iff_forall_not_mem.mpr fun b hb => ?_
    rw [howner.2, howner.1] at hb
    exact hmember hb (hs.rows.groupId_of_key hshaped hb)
  unfold Memory.insertGroup
  refine ensures_placed (fun r now' hr => hr) (fun hclash e now' he => ?_) fun hfree => ?_
  · have hslug : s.namespaces.contains g.slug := hentry.mp hclash
    rw [if_pos hslug, duplicate_eq he]
    exact ⟨rfl, rfl⟩
  · have hslug : ¬ s.namespaces.contains g.slug := fun h => hfree (hentry.mpr h)
    have hm₁ := hm.set_namespaces
      (hm.namespaces.insert g.namespace.ofDocument?_toDocument (Table.not_contains_iff.mp hslug))
    have hm₂ := hm₁.set_groups
      (hm₁.groups.insert g.ofDocument?_toDocument (Table.not_contains_iff.mp hid))
    have hm₃ := hm₂.set_members (hm₂.members.insert owner.ofDocument?_toDocument howner')
    rw [if_neg hslug, if_neg hid]
    refine ensures_placed (fun r now' hr => hr) (fun hclash => ?_) fun _ => ?_
    · obtain ⟨k, b, hb, hsame | hsame⟩ :=
        (clashes_groups_iff hm₁.groups g.ofDocument?_toDocument).mp hclash
      · rw [← hsame.trans (hs.slugs.groups hb)] at hb
        exact absurd (Table.contains_iff.mpr ⟨b, hb⟩) hid
      · have hparty : s.Has (.group b) := hs.slugs.groups.get? hb
        have hthere : s.namespaces.contains b.slug :=
          Table.contains_iff.mpr ⟨_, hs.slugs.entry_of_party hparty⟩
        exact absurd (hsame ▸ hthere) hslug
    · rw [← Plan.bind_done (within _)]
      refine ensures_placed (fun r now' hr => hr) (fun hclash => ?_) fun _ => ⟨rfl, rfl, hm₃⟩
      obtain ⟨k, b, hb, hsame | ⟨hsame, -⟩⟩ :=
        (clashes_members_iff hm₂.members owner.ofDocument?_toDocument).mp hclash
      · rw [← hsame.trans (hs.rows.keyed hb), howner'] at hb
        cases hb
      · exact absurd (hsame.symm.trans howner.1) (hmember hb)

/-! ## Changing records -/

theorem changed_namespace {d : Document} {n : Namespace} (h : Namespace.ofDocument? d = some n)
    (slug : String) :
    Namespace.ofDocument? (d.putAll [("slug", .text slug)]) = some { n with slug := slug } := by
  rw [Namespace.ofDocument?_eq_some_iff] at h ⊢
  simpa [Document.putAll] using ⟨h.1, h.2.2⟩

theorem changed_group {d : Document} {old : Group} (h : Group.ofDocument? d = some old) (g : Group) :
    Group.ofDocument? (d.putAll (groupChanges g)) = some (Memory.withTextsOf old g) := by
  rw [Group.ofDocument?_eq_some_iff] at h ⊢
  simpa [Document.putAll, groupChanges, Memory.withTextsOf] using ⟨h.1, h.2.2.2.2.1, h.2.2.2.2.2.1⟩

theorem changed_member {d : Document} {old : Member} (h : Member.ofDocument? d = some old)
    (m : Member) :
    Member.ofDocument? (d.putAll [("role", .text m.role.name), ("update_time", .int m.updateTime)]) =
      some { old with role := m.role, updateTime := m.updateTime } := by
  rw [Member.ofDocument?_eq_some_iff] at h ⊢
  simpa [Document.putAll] using ⟨h.1, h.2.1, h.2.2.1, h.2.2.2.2.1⟩

theorem changed_user {d : Document} {old : User} (h : User.ofDocument? d = some old) (u : User) :
    User.ofDocument? (d.putAll [("first_name", .ofOption u.firstName),
      ("last_name", .ofOption u.lastName), ("email", .ofOption u.email),
      ("update_time", .int u.updateTime)]) = some (Memory.withProfileOf old u) := by
  rw [User.ofDocument?_eq_some_iff] at h ⊢
  simpa [Document.putAll, Memory.withProfileOf] using ⟨h.1, h.2.2.2.2.1, h.2.2.2.2.2.1, h.2.2.2.2.2.2.1⟩

section Update

variable {g old : Group} {d : Document} {others : Multiset Document}

/-- The entry with the id of a group is the group's own. -/
theorem meets_groupId_iff (hs : s.Kept) (hids : s.Brought past)
    (hid : ∀ c ∈ past, c.brings? ≠ some (.user, g.id)) (hold : s.groups.get? g.id = some old) :
    ∀ j d n, s.namespaces.get? j = some n → Namespace.ofDocument? d = some n →
      (meets (is "_id" g.id) d ↔ j = old.slug) := by
  intro j d n hn hd
  rw [meets_text (Namespace.ofDocument?_eq_some_iff.mp hd).1, hids.id_iff hs.slugs hid hn]
  constructor
  · rintro ⟨old', hold', rfl⟩
    cases hold.symm.trans hold'
    rfl
  · rintro rfl
    exact ⟨old, hold, rfl⟩

/-- The entry of a group clashes under its new slug exactly if another party has the slug. -/
theorem clashes_renamed_iff (hs : s.Kept) (hids : s.Brought past)
    (hid : ∀ c ∈ past, c.brings? ≠ some (.user, g.id)) (hold : s.groups.get? g.id = some old)
    (hothers : Reads Namespace.ofDocument? others (s.namespaces.erase old.slug))
    (hd : Namespace.ofDocument? d = some { old.namespace with slug := g.slug }) :
    Clashes .namespaces d others ↔ old.slug ≠ g.slug ∧ s.namespaces.contains g.slug := by
  have hidold : old.id = g.id := hs.slugs.groups hold
  rw [clashes_namespaces_iff hothers hd, Table.contains_iff]
  constructor
  · rintro ⟨k, b, hb, hsame⟩
    obtain ⟨hk, hb⟩ := Table.get?_erase_eq_some_iff.mp hb
    rcases hsame with hsame | hsame
    · obtain ⟨old', hold', hslug⟩ := (hids.id_iff hs.slugs hid hb).mp (hsame.symm.trans hidold)
      cases hold.symm.trans hold'
      exact absurd hslug.symm hk
    · have hslug : g.slug = k := hsame.trans (hs.slugs.slug_of_entry hb)
      subst hslug
      exact ⟨hk.symm, b, hb⟩
  · rintro ⟨hne, b, hb⟩
    refine ⟨g.slug, b, Table.get?_erase_eq_some_iff.mpr ⟨hne.symm, hb⟩, .inr ?_⟩
    exact (hs.slugs.slug_of_entry hb).symm

/-- If the entry of a group does not clash, the group does not either. -/
theorem not_clashes_changed (hs : s.Kept) (hold : s.groups.get? g.id = some old)
    (hfree : ¬ (old.slug ≠ g.slug ∧ s.namespaces.contains g.slug))
    (hothers : Reads Group.ofDocument? others (s.groups.erase g.id))
    (hd : Group.ofDocument? d = some (Memory.withTextsOf old g)) : ¬ Clashes .groups d others := by
  have hidold : old.id = g.id := hs.slugs.groups hold
  rw [clashes_groups_iff hothers hd]
  rintro ⟨k, b, hb, hsame⟩
  obtain ⟨hk, hb⟩ := Table.get?_erase_eq_some_iff.mp hb
  have hidb : b.id = k := hs.slugs.groups hb
  rcases hsame with hsame | hsame
  · exact hk (hidb.symm.trans (hsame.symm.trans hidold))
  · have hpartyb : s.Has (.group b) := hs.slugs.groups.get? hb
    have hslug : old.slug = g.slug := by
      refine Classical.not_not.mp fun hne => hfree ⟨hne, Table.contains_iff.mpr ⟨b.namespace, ?_⟩⟩
      rw [show g.slug = b.slug from hsame]
      exact hs.slugs.entry_of_party hpartyb
    have hparty : s.Has (.group old) := hs.slugs.groups.get? hold
    cases hs.slugs.party_eq hparty hpartyb (hslug.trans hsame)
    exact hk (hidb.symm.trans hidold)

end Update

/-- A group that is not there is not changed, and neither is any entry. -/
theorem ensures_updateGroup_none (hm : Mirrors now s) (hs : s.Kept) (hids : s.Brought past)
    {g : Group} (hid : ∀ d ∈ past, d.brings? ≠ some (.user, g.id))
    (hold : s.groups.get? g.id = none) :
    Ensures (Follows (s.written (s.updateGroup g)).1 (s.written (s.updateGroup g)).2)
      (updateGroup g) now none := by
  refine follows_transaction hm ?_
  unfold Memory.updateGroup
  rw [hold]
  refine ensures_within fun r now' hr => ?_
  have hentries : ∀ j d n, s.namespaces.get? j = some n → Namespace.ofDocument? d = some n →
      ¬ meets (is "_id" g.id) d := by
    intro j d n hn hd
    rw [meets_text (Namespace.ofDocument?_eq_some_iff.mp hd).1, hids.id_iff hs.slugs hid hn]
    rintro ⟨old, hold', -⟩
    cases hold.symm.trans hold'
  obtain ⟨rfl, rfl⟩ := carries_update_unmet hm.namespaces hentries hr
  refine ensures_within fun r now' hr => ?_
  have hgroups := meets_key hs.slugs.groups (fun _ _ hd => (Group.ofDocument?_eq_some_iff.mp hd).1)
    g.id
  obtain ⟨rfl, rfl⟩ := carries_update_unmet hm.groups (unmet_of_none hold hgroups) hr
  exact ⟨rfl, rfl⟩

/-- A group that is there is changed together with its entry, unless its new slug is taken. -/
theorem ensures_updateGroup_some (hm : Mirrors now s) (hs : s.Kept) (hids : s.Brought past)
    {g old : Group} (hid : ∀ d ∈ past, d.brings? ≠ some (.user, g.id))
    (hold : s.groups.get? g.id = some old) :
    Ensures (Follows (s.written (s.updateGroup g)).1 (s.written (s.updateGroup g)).2)
      (updateGroup g) now none := by
  refine follows_transaction hm ?_
  rw [Memory.updateGroup_eq hs.slugs hold]
  have hparty : s.Has (.group old) := hs.slugs.groups.get? hold
  have hentry : s.namespaces.get? old.slug = some old.namespace := hs.slugs.entry_of_party hparty
  have hentries := meets_groupId_iff hs hids hid hold
  refine ensures_within fun r now' hr => ?_
  obtain ⟨d, others, hd, hothers, hplaced⟩ := carries_update_met hm.namespaces hentry hentries
    (fun d hd => changed_namespace hd g.slug) hr
  have hclash := clashes_renamed_iff hs hids hid hold hothers hd
  rcases hplaced with ⟨htaken, e, rfl, he⟩ | ⟨hfree, rfl, rfl⟩
  · rw [if_pos (hclash.mp htaken)]
    exact ⟨rfl, congrArg Except.error (duplicate_eq he)⟩
  · rw [hclash] at hfree
    rw [if_neg hfree]
    have hnew : (s.namespaces.erase old.slug).get? g.slug = none := by
      refine Option.eq_none_iff_forall_not_mem.mpr fun b hb => hfree ?_
      obtain ⟨hne, hb⟩ := Table.get?_erase_eq_some_iff.mp hb
      exact ⟨hne.symm, Table.contains_iff.mpr ⟨b, hb⟩⟩
    have hm₁ := hm.set_namespaces (hothers.insert hd hnew)
    refine ensures_within fun r now' hr => ?_
    have hgroups := meets_key hs.slugs.groups
      (fun _ _ hd => (Group.ofDocument?_eq_some_iff.mp hd).1) g.id
    obtain ⟨d', others', hd', hothers', hplaced'⟩ := carries_update_met hm₁.groups hold hgroups
      (fun d hd => changed_group hd g) hr
    rcases hplaced' with ⟨hclash', -⟩ | ⟨-, rfl, rfl⟩
    · exact absurd hclash' (not_clashes_changed hs hold hfree hothers' hd')
    · have hm₂ := hm₁.set_groups (hothers'.insert hd' (Table.get?_erase_self _ _))
      rw [Table.insert_erase] at hm₂
      refine ⟨rfl, rfl, ?_⟩
      rw [Memory.renameNamespace_eq hentry]
      exact hm₂

theorem follows_updateGroup (hm : Mirrors now s) (hs : s.Kept) (hids : s.Brought past) {g : Group}
    (hid : ∀ d ∈ past, d.brings? ≠ some (.user, g.id)) :
    Ensures (Follows (Memory.answer (.updateGroup g) s).1 (Memory.answer (.updateGroup g) s).2)
      (plan (.updateGroup g)) now none := by
  cases hold : s.groups.get? g.id with
  | none => exact ensures_updateGroup_none hm hs hids hid hold
  | some old => exact ensures_updateGroup_some hm hs hids hid hold

theorem follows_updateProfile (hm : Mirrors now s) (hs : s.Kept) (u : User) :
    Ensures (Follows (Memory.answer (.updateProfile u) s).1
      (Memory.answer (.updateProfile u) s).2) (plan (.updateProfile u)) now none := by
  refine ensures_single fun r now' hr => ?_
  have hmeets := meets_key hs.slugs.users (fun _ _ hd => (User.ofDocument?_eq_some_iff.mp hd).1) u.id
  simp only [Memory.answer, Memory.updateProfile]
  cases hold : s.users.get? u.id with
  | none =>
      obtain ⟨rfl, rfl⟩ := carries_update_unmet hm.users (unmet_of_none hold hmeets) hr
      exact ⟨rfl, hm, rfl⟩
  | some old =>
      obtain ⟨d, others, hd, hothers, hplaced⟩ := carries_update_met hm.users hold hmeets
        (fun d hd => changed_user hd u) hr
      rcases hplaced with ⟨hclash, -⟩ | ⟨-, rfl, rfl⟩
      · obtain ⟨k, b, hb, hsame⟩ := (clashes_users_iff hothers hd).mp hclash
        obtain ⟨hk, hb⟩ := Table.get?_erase_eq_some_iff.mp hb
        have hidu : old.id = u.id := hs.slugs.users hold
        exact absurd ((hs.slugs.users hb).symm.trans (hsame.symm.trans hidu)) hk
      · have hm' := hm.set_users (hothers.insert hd (Table.get?_erase_self _ _))
        rw [Table.insert_erase] at hm'
        exact ⟨rfl, hm', rfl⟩

/-! ## Members -/

section Upsert

variable {groupId : String} {m old : Member} {d : Document} {others : Multiset Document}

/-- What is put in for a membership that is not known is the membership. -/
theorem added_member (m : Member) :
    Member.ofDocument? (((Document.ofFilter (is "_id" m.id)).putAll
      [("group_id", .text m.groupId), ("user_id", .text m.userId),
        ("create_time", .int m.createTime)]).putAll
      [("role", .text m.role.name), ("update_time", .int m.updateTime)]) = some m := by
  have hid : Document.get [("_id", .text m.id)] "_id" = .text m.id := by rfl
  rw [Member.ofDocument?_eq_some_iff]
  simp [Document.putAll, Document.ofFilter, is, hid]

/-- A membership of a user in a group does not clash with those under other keys. -/
theorem not_clashes_member (hrows : s.RowsKept) (hid : m.id = Member.idOf m.groupId m.userId)
    {t : Table Member} (ht : ∀ {k b}, t.get? k = some b → k ≠ m.id ∧ s.members.get? k = some b)
    (hothers : Reads Member.ofDocument? others t) (hd : Member.ofDocument? d = some m) :
    ¬ Clashes .members d others := by
  rw [clashes_members_iff hothers hd]
  rintro ⟨k, b, hb, hsame⟩
  obtain ⟨hk, hb⟩ := ht hb
  refine hk ((hrows.keyed hb).symm.trans ?_)
  rcases hsame with hsame | ⟨hgroup, huser⟩
  · exact hsame.symm
  · rw [hrows.id_eq hb, hid, hgroup, huser]

theorem ensures_upsertMember {β : Type} {post : Ending β} {k : Unit → Exchange β} {back : Holdings}
    (hm : Mirrors now s) (hrows : s.RowsKept) (hmade : MadeFor groupId m)
    (hk : ∀ now', Mirrors now' { s with members := Memory.upsertMember s.members m } →
      Ensures post (k ()) now' (some back)) :
    Ensures post (upsertMember m >>= k) now (some back) := by
  unfold upsertMember
  rw [Plan.bind_assoc]
  refine ensures_within fun r now' hr => ?_
  have hmeets := meets_key hrows.keyed (fun _ _ hd => (Member.ofDocument?_eq_some_iff.mp hd).1) m.id
  cases hold : s.members.get? m.id with
  | some old =>
      obtain ⟨d, others, hd, hothers, hplaced⟩ := carries_update_met hm.members hold hmeets
        (fun d hd => changed_member hd m) hr
      have hidold : old.id = m.id := hrows.keyed hold
      have hkey : old.id = Member.idOf old.groupId old.userId := hrows.id_eq hold
      have hfree : ¬ Clashes .members d others :=
        not_clashes_member (m := { old with role := m.role, updateTime := m.updateTime }) hrows
          hkey (fun hb => hidold ▸ Table.get?_erase_eq_some_iff.mp hb) hothers hd
      rcases hplaced with ⟨hclash, -⟩ | ⟨-, rfl, rfl⟩
      · exact absurd hclash hfree
      · refine hk _ ?_
        have hm' := hm.set_members (hothers.insert hd (Table.get?_erase_self _ _))
        rw [Table.insert_erase] at hm'
        rw [Memory.upsertMember, hold]
        exact hm'
  | none =>
      have hfree : ∀ {d}, Member.ofDocument? d = some m → ¬ Clashes .members d (now .members) := by
        refine fun hd => not_clashes_member hrows hmade.2 (fun {k b} hb => ⟨?_, hb⟩) hm.members hd
        rintro rfl
        cases hold.symm.trans hb
      rcases carries_upsert_unmet hm.members (unmet_of_none hold hmeets) hr with ⟨hclash, -⟩ | ⟨-, rfl, rfl⟩
      · exact absurd hclash (hfree (added_member m))
      · refine hk _ ?_
        rw [Memory.upsertMember, hold]
        exact hm.set_members (hm.members.insert (added_member m) hold)

theorem ensures_upsertEach {back : Holdings} (members : List Member) (hm : Mirrors now s)
    (hrows : s.RowsKept) (hmade : ∀ m ∈ members, MadeFor groupId m)
    (hgroup : s.groups.contains groupId) :
    Ensures (Follows.Within back
      (.ok { s with members := members.foldl Memory.upsertMember s.members }))
      (upsertEach members) now (some back) := by
  induction members generalizing now s with
  | nil => exact ⟨rfl, rfl, hm⟩
  | cons m members ih =>
      have hfirst : MadeFor groupId m := hmade m List.mem_cons_self
      refine ensures_upsertMember hm hrows hfirst fun now' hm' => ?_
      exact ih hm' (Memory.upsertMember_rowsKept hrows hfirst hgroup)
        (fun m' hm' => hmade m' (List.mem_cons_of_mem _ hm')) hgroup

theorem follows_upsertMembers (hm : Mirrors now s) (hs : s.Kept) {members : List Member}
    (hmade : ∀ m ∈ members, MadeFor groupId m) :
    Ensures (Follows (Memory.answer (.upsertMembers groupId members) s).1
      (Memory.answer (.upsertMembers groupId members) s).2) (plan (.upsertMembers groupId members))
      now none := by
  refine follows_transaction hm ?_
  refine ensures_within fun r now' hr => ?_
  obtain ⟨rfl, found, hfound, -, rfl⟩ := hr
  obtain ⟨records, hrecords, hperm⟩ := found_records (q := (·.id == groupId)) hm.groups
    (fun d g hd => by rw [meets_text (Group.ofDocument?_eq_some_iff.mp hd).1, beq_iff_eq]) hfound
  have hthere : 0 < records.length ↔ s.groups.contains groupId :=
    hperm.length_eq ▸ hs.slugs.groups.exists_of_key
  show Ensures _ (decode Group.ofDocument? (cut none (some 1) found) >>= fun groups =>
    if groups.isEmpty then .fail (.groupIdUnknown groupId) else upsertEach members) now' (some now')
  rw [decode_eq_done (map_cut hrecords)]
  unfold Memory.upsertMembers
  cases records with
  | nil =>
      have hgroup : ¬ s.groups.contains groupId := fun h => absurd (hthere.mpr h) (Nat.lt_irrefl 0)
      rw [if_neg hgroup]
      exact ⟨rfl, rfl⟩
  | cons g records =>
      have hgroup : s.groups.contains groupId := hthere.mp (Nat.succ_pos _)
      rw [if_pos hgroup]
      exact ensures_upsertEach members hm hs.rows hmade hgroup

end Upsert

/-! ## Taking records away -/

theorem follows_deleteMember (hm : Mirrors now s) (hs : s.Kept) (groupId userId : String) :
    Ensures (Follows (Memory.answer (.deleteMember groupId userId) s).1
      (Memory.answer (.deleteMember groupId userId) s).2) (plan (.deleteMember groupId userId)) now
      none := by
  refine ensures_single fun r now' hr => ?_
  obtain ⟨rfl, ds, rfl, hds⟩ := carries_delete (q := (·.id == Member.idOf groupId userId)) hm.members
    (fun d m hd => by rw [meets_text (Member.ofDocument?_eq_some_iff.mp hd).1, beq_iff_eq]) hr
  rw [hs.rows.keyed.filter_ne] at hds
  refine ⟨?_, hm.set_members hds, rfl⟩
  refine congrArg Except.ok (Bool.eq_iff_iff.mpr ?_)
  rw [decide_eq_true_iff]
  exact hs.rows.keyed.exists_of_key

/-- The store in memory takes away a group with its entry and its memberships: all that has the id
of the group. -/
theorem deleteGroup_eq (hs : s.Kept) (hids : s.Brought past) {id : String}
    (hid : ∀ d ∈ past, d.brings? ≠ some (.user, id)) :
    s.deleteGroup id = (s.groups.contains id,
      { s with
        groups := s.groups.filter fun _ g => !(g.id == id)
        namespaces := s.namespaces.filter fun _ n => !(n.id == id)
        members := s.members.filter fun _ m => !(m.groupId == id) }) := by
  have hentry : ∀ {k n}, s.namespaces.get? k = some n →
      (n.id = id ↔ ∃ g, s.groups.get? id = some g ∧ g.slug = k) :=
    fun hn => hids.id_iff hs.slugs hid hn
  rw [hs.slugs.groups.filter_ne]
  unfold Memory.deleteGroup
  cases hg : s.groups.get? id with
  | none =>
      have hcontains : s.groups.contains id = false := by rw [Table.contains, hg]; rfl
      have hgroups : s.groups.erase id = s.groups :=
        Table.filter_eq_self fun k g hk => decide_eq_true fun he => by
          subst he
          cases hg.symm.trans hk
      have hentries : (s.namespaces.filter fun _ n => !(n.id == id)) = s.namespaces :=
        Table.filter_eq_self fun k n hn => by simp [hentry hn, hg]
      have hmembers : (s.members.filter fun _ m => !(m.groupId == id)) = s.members :=
        Table.filter_eq_self fun k m hm => by
          rw [Bool.not_eq_true', beq_eq_false_iff_ne]
          rintro rfl
          obtain ⟨g, hg'⟩ := Table.contains_iff.mp (hs.rows.group hm)
          cases hg.symm.trans hg'
      rw [hcontains, hgroups, hentries, hmembers]
  | some g =>
      have hcontains : s.groups.contains id = true := Table.contains_iff.mpr ⟨g, hg⟩
      have hentries : s.namespaces.erase g.slug = s.namespaces.filter fun _ n => !(n.id == id) :=
        Table.filter_congr fun k n hn => by
          rw [Bool.eq_iff_iff]
          simp [hentry hn, hg, @eq_comm _ k]
      have hmembers : (s.members.filter fun _ m => decide (m.groupId ≠ id)) =
          s.members.filter fun _ m => !(m.groupId == id) :=
        Table.filter_congr fun k m _ => by
          by_cases he : m.groupId = id <;> simp [he]
      dsimp only
      rw [hcontains, hentries, hmembers]

theorem follows_deleteGroup (hm : Mirrors now s) (hs : s.Kept) (hids : s.Brought past) {id : String}
    (hid : ∀ d ∈ past, d.brings? ≠ some (.user, id)) :
    Ensures (Follows (Memory.answer (.deleteGroup id) s).1 (Memory.answer (.deleteGroup id) s).2)
      (plan (.deleteGroup id)) now none := by
  refine ensures_transaction ?_
  refine ensures_within fun r now' hr => ?_
  obtain ⟨rfl, groups, rfl, hgroups⟩ := carries_delete (q := (·.id == id)) hm.groups
    (fun d g hd => by rw [meets_text (Group.ofDocument?_eq_some_iff.mp hd).1, beq_iff_eq]) hr
  have hm₁ := hm.set_groups hgroups
  refine ensures_within fun r now' hr => ?_
  obtain ⟨rfl, entries, rfl, hentries⟩ := carries_delete (q := (·.id == id)) hm₁.namespaces
    (fun d n hd => by rw [meets_text (Namespace.ofDocument?_eq_some_iff.mp hd).1, beq_iff_eq]) hr
  have hm₂ := hm₁.set_namespaces hentries
  refine ensures_within fun r now' hr => ?_
  obtain ⟨rfl, members, rfl, hmembers⟩ := carries_delete (q := (·.groupId == id)) hm₂.members
    (fun d m hd => by
      rw [meets_text (Member.ofDocument?_eq_some_iff.mp hd).2.1, beq_iff_eq]) hr
  have hm₃ := hm₂.set_members hmembers
  simp only [Memory.answer, deleteGroup_eq hs hids hid]
  refine ⟨rfl, congrArg Except.ok (Bool.eq_iff_iff.mpr ?_), hm₃, rfl⟩
  rw [decide_eq_true_iff]
  exact hs.slugs.groups.exists_of_key

end Writes

end Roster.Store.Documents
