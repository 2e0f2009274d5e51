/-
# Ids given out once

Groups and the namespaces of users take their ids from one source, and an id is given out
once.  Nothing in the store in memory looks for that, since entries stand under their slugs;
but a call that means a group by its id must not meet the namespace of a user.
`Call.Served` is what a call has to be, in view of the calls before it, so that it does not:
what the services ask is of this kind.  What is known of the entries is `Brought`, where they
come from.
-/
import Roster.Document.Command
import Roster.Proofs.Store.Rows
import Roster.Store.Documents

namespace Roster.Store

/-- The namespace that a call brings in, by its kind and its id. -/
def Call.brings? : Call → Option (Namespace.Kind × String)
  | .insertGroup g _ => some (.group, g.id)
  | .insertUser u => some (.user, u.namespaceId)
  | _ => none

/-- The id was not brought in by any of the calls. -/
def NewTo (past : List Call) (id : String) : Prop :=
  ∀ d ∈ past, ∀ kind, d.brings? ≠ some (kind, id)

theorem newTo_nil {id : String} : NewTo [] id := fun _ hd => absurd hd List.not_mem_nil

/-- A call as the services make it, after others: memberships are made for their group, and ids
that are brought in are new.  A group that is changed or deleted was found before, so its id is not
that of the namespace of a user (`ServedFrom.not_user_of_found`).  The numbers of elements that are
passed over or asked for fit into a signed word. -/
def Call.Served (past : List Call) (c : Call) : Prop :=
  c.Proper ∧ match c with
    | .insertGroup g _ => NewTo past g.id
    | .insertUser u => NewTo past u.namespaceId
    | .updateGroup g => ∀ d ∈ past, d.brings? ≠ some (.user, g.id)
    | .deleteGroup id => ∀ d ∈ past, d.brings? ≠ some (.user, id)
    | .pageGroups skip limit | .pageMemberGroups _ _ skip limit =>
        skip < Documents.signedLimit ∧ limit < Documents.signedLimit
    | _ => True

namespace Memory

/-- Each entry was brought in by one of the calls, with its kind and its id. -/
def Brought (past : List Call) (s : Memory) : Prop :=
  ∀ ⦃k n⦄, s.namespaces.get? k = some n → ∃ d ∈ past, d.brings? = some (n.kind, n.id)

variable {past : List Call} {c : Call} {s s' : Memory}

theorem brought_empty : Brought [] {} := nofun

/-- Entries that were there before, with the kinds and ids that they had, were brought in before. -/
theorem Brought.of_entries (h : s.Brought past) (c : Call)
    (hold : ∀ {k n}, s'.namespaces.get? k = some n → ∃ k' n', s.namespaces.get? k' = some n' ∧
      n'.kind = n.kind ∧ n'.id = n.id) : s'.Brought (past ++ [c]) := by
  intro k n hn
  obtain ⟨k', n', hn', hkind, hid⟩ := hold hn
  obtain ⟨d, hd, hbrings⟩ := h hn'
  exact ⟨d, List.mem_append_left _ hd, hkind ▸ hid ▸ hbrings⟩

theorem Brought.of_eq (h : s.Brought past) (c : Call) (hn : s'.namespaces = s.namespaces) :
    s'.Brought (past ++ [c]) :=
  h.of_entries c fun hk => ⟨_, _, hn ▸ hk, rfl, rfl⟩

theorem Brought.insert (h : s.Brought past) {k : String} {n : Namespace}
    (hbrings : c.brings? = some (n.kind, n.id)) (hs' : s'.namespaces = s.namespaces.insert k n) :
    s'.Brought (past ++ [c]) := by
  intro j m hm
  rw [hs', Table.get?_insert] at hm
  split at hm
  · cases hm
    exact ⟨c, List.mem_append_right _ List.mem_cons_self, hbrings⟩
  · obtain ⟨d, hd, hd'⟩ := h hm
    exact ⟨d, List.mem_append_left _ hd, hd'⟩

theorem get?_renameNamespace {t : Table Namespace} {old new : String} {n : Namespace}
    (hn : t.get? old = some n) (k : String) : (renameNamespace t old new).get? k =
      if k = new then some { n with slug := new } else if k = old then none else t.get? k := by
  simp only [renameNamespace, hn, Table.get?_insert, Table.get?_erase]

/-- An entry that goes under another slug takes kind and id along. -/
theorem Brought.rename (h : s.Brought past) (c : Call) {old new : String} {n : Namespace}
    (hn : s.namespaces.get? old = some n)
    (hs' : s'.namespaces = renameNamespace s.namespaces old new) : s'.Brought (past ++ [c]) := by
  refine h.of_entries c fun {k m} hm => ?_
  rw [hs', get?_renameNamespace hn] at hm
  split at hm
  · cases hm
    exact ⟨old, n, hn, rfl, rfl⟩
  · split at hm
    · cases hm
    · exact ⟨k, m, hm, rfl, rfl⟩

/-- **Whatever is in the store was brought in** by one of the calls. -/
theorem answer_brought (hslugs : s.SlugsKept) (h : s.Brought past) (c : Call) :
    (answer c s).2.Brought (past ++ [c]) := by
  have hkeep : ∀ {r : Except Fault Memory}, (∀ {s'}, r = .ok s' → s'.Brought (past ++ [c])) →
      (s.written r).2.Brought (past ++ [c]) :=
    fun hr => written_inv (P := fun s' => s'.Brought (past ++ [c])) (h.of_eq c rfl) hr
  cases c with
  | insertGroup g owner =>
      refine hkeep fun {s'} hs => ?_
      unfold insertGroup at hs
      split at hs
      · cases hs
      · split at hs
        · cases hs
        · cases hs
          exact h.insert (n := g.namespace) rfl rfl
  | insertUser u =>
      refine hkeep fun {s'} hs => ?_
      unfold insertUser at hs
      split at hs
      · cases hs
      · split at hs
        · cases hs
        · cases hs
          exact h.insert (n := u.namespace) rfl rfl
  | updateGroup g =>
      refine hkeep fun {s'} hs => ?_
      unfold updateGroup at hs
      split at hs
      · cases hs
      · next old hold =>
          split at hs
          · cases hs
            exact h.of_eq _ rfl
          · split at hs
            · cases hs
            · cases hs
              have hparty : s.Has (.group old) := hslugs.groups.get? hold
              exact h.rename _ (hslugs.entry_of_party hparty) rfl
  | deleteGroup id =>
      show (s.deleteGroup id).2.Brought _
      unfold deleteGroup
      split
      · exact h.of_eq _ rfl
      · refine h.of_entries _ fun {k n} hn => ?_
        simp only [Table.get?_erase] at hn
        split at hn
        · cases hn
        · exact ⟨k, n, hn, rfl, rfl⟩
  | upsertMembers groupId members =>
      refine hkeep fun {s'} hs => ?_
      unfold upsertMembers at hs
      split at hs
      · cases hs
        exact h.of_eq _ rfl
      · cases hs
  | deleteMember groupId userId => exact h.of_eq _ rfl
  | updateProfile u =>
      show (s.updateProfile u).Brought _
      unfold updateProfile
      split
      · exact h.of_eq _ rfl
      · exact h.of_eq _ rfl
  | countGroups | pageGroups | findGroup | listMembers | findMember | countMemberGroups
  | pageMemberGroups | findUser | findUsers | listUsers | findNamespace => exact h.of_eq _ rfl

theorem after_brought (hslugs : s.SlugsKept) (h : s.Brought past) (calls : List Call) :
    (s.after calls).Brought (past ++ calls) := by
  induction calls generalizing s past with
  | nil =>
      rw [List.append_nil]
      exact h
  | cons c calls ih =>
      rw [List.append_cons]
      exact ih (answer_slugsKept c hslugs) (answer_brought hslugs h c)

/-- A new id is not the id of an entry, nor of a group. -/
theorem Brought.id_ne (h : s.Brought past) {id : String} (hnew : NewTo past id) {k : String}
    {n : Namespace} (hn : s.namespaces.get? k = some n) : n.id ≠ id := by
  rintro rfl
  obtain ⟨d, hd, hbrings⟩ := h hn
  exact hnew d hd _ hbrings

theorem Brought.not_contains (h : s.Brought past) (hs : s.SlugsKept) {id : String}
    (hnew : NewTo past id) : ¬ s.groups.contains id := by
  intro hcontains
  obtain ⟨g, hg⟩ := Table.contains_iff.mp hcontains
  have hparty : s.Has (.group g) := hs.groups.get? hg
  exact h.id_ne hnew (hs.entry_of_party hparty) (hs.groups hg)

/-- If an id was not brought in for a user, an entry has it exactly if it is the entry of the group
with this id. -/
theorem Brought.id_iff (h : s.Brought past) (hs : s.SlugsKept) {id : String}
    (hid : ∀ d ∈ past, d.brings? ≠ some (.user, id)) {k : String} {n : Namespace}
    (hn : s.namespaces.get? k = some n) :
    n.id = id ↔ ∃ g, s.groups.get? id = some g ∧ g.slug = k := by
  constructor
  · intro he
    obtain ⟨p, hp, rfl, rfl⟩ := hs.party_of_entry hn
    cases p with
    | group g => exact ⟨g, he ▸ hp, rfl⟩
    | user u =>
        obtain ⟨d, hd, hbrings⟩ := h hn
        exact absurd (he ▸ hbrings) (hid d hd)
  · rintro ⟨g, hg, rfl⟩
    have hparty : s.Has (.group g) := hs.groups.get? hg
    cases (hs.entry_of_party hparty).symm.trans hn
    exact hs.groups hg

end Memory

end Roster.Store
