/-
# Calls that concern groups

A group is found by its slug, and there is one at most, because no two parties share a
slug.  A group that is changed goes, and what it has become comes in its place, with its
entry (`replaceGroup`): a slug that stays is one that is given up and taken again, so there
is one formula for a group that moves and for one that does not.
-/
import Roster.Proofs.Store.Rows

namespace Roster.Store.Memory

variable {s : Memory} {g old : Group} {slug : String}

/-! ## Finding a group -/

/-- The group that is found under a slug is the one that has it. -/
theorem SlugsKept.findGroup_eq_some_iff (h : s.SlugsKept) :
    s.findGroup slug = some g ↔ s.Has (.group g) ∧ g.slug = slug := by
  have hslug : ∀ {g' : Group}, s.findGroup slug = some g' → g'.slug = slug := fun hg => by
    simpa using List.find?_some hg
  constructor
  · exact fun hg => ⟨h.get?_of_findGroup hg, hslug hg⟩
  · rintro ⟨hg, rfl⟩
    cases hfound : s.findGroup g.slug with
    | none =>
        have hno := List.find?_eq_none.mp hfound g (h.groups.mem_values_iff.mpr hg)
        exact absurd (beq_self_eq_true g.slug) hno
    | some g' =>
        have hg' : s.Has (.group g') := h.get?_of_findGroup hfound
        cases h.party_eq hg' hg (hslug hfound)
        rfl

/-- A slug without an entry is not that of a group. -/
theorem SlugsKept.findGroup_eq_none (h : s.SlugsKept) (hn : s.namespaces.get? slug = none) :
    s.findGroup slug = none := by
  cases hfound : s.findGroup slug with
  | none => rfl
  | some g =>
      obtain ⟨hg, rfl⟩ := h.findGroup_eq_some_iff.mp hfound
      exact absurd (hn.symm.trans (h.entry_of_party hg)) nofun

/-! ## Adding a group -/

/-- A group is added with its entry and its first membership, if its slug and its id are new. -/
theorem answer_insertGroup_of_new (hslug : s.namespaces.get? g.slug = none)
    (hid : s.groups.get? g.id = none) (owner : Member) :
    answer (.insertGroup g owner) s = (.ok (),
      { s with
        namespaces := s.namespaces.insert g.slug g.namespace
        groups := s.groups.insert g.id g
        members := s.members.insert owner.id owner }) := by
  simp [answer, written, insertGroup, Table.contains, hslug, hid]

/-- A slug with an entry is in the way, whatever the id. -/
theorem answer_insertGroup_of_taken (hslug : s.namespaces.contains g.slug) (owner : Member) :
    answer (.insertGroup g owner) s = (.error (.slugTaken g.slug), s) := by
  simp [answer, written, insertGroup, hslug]

/-! ## Changing a group -/

theorem renameNamespace_eq {t : Table Namespace} {old : String} {n : Namespace}
    (hn : t.get? old = some n) (new : String) :
    renameNamespace t old new = (t.erase old).insert new { n with slug := new } := by
  rw [renameNamespace, hn]

theorem renameNamespace_self {t : Table Namespace} {slug : String} {n : Namespace}
    (hn : t.get? slug = some n) (hslug : n.slug = slug) : renameNamespace t slug slug = t := by
  subst hslug
  rw [renameNamespace_eq hn, Table.insert_erase, Table.insert_self hn]

/-- A group that is there is changed, unless its new slug is taken by another party. -/
theorem updateGroup_eq (hs : s.SlugsKept) (hold : s.groups.get? g.id = some old) :
    s.updateGroup g =
      if old.slug ≠ g.slug ∧ s.namespaces.contains g.slug then .error (.slugTaken g.slug)
      else .ok
        { s with
          namespaces := renameNamespace s.namespaces old.slug g.slug
          groups := s.groups.insert g.id (withTextsOf old g) } := by
  have hparty : s.Has (.group old) := hs.groups.get? hold
  have hentry : s.namespaces.get? old.slug = some old.namespace := hs.entry_of_party hparty
  unfold updateGroup
  rw [hold]
  dsimp only
  by_cases hslug : old.slug = g.slug
  · rw [if_pos hslug, if_neg (fun h => h.1 hslug), ← hslug, renameNamespace_self hentry rfl]
  · by_cases htaken : s.namespaces.contains g.slug
    · rw [if_neg hslug, if_pos htaken, if_pos ⟨hslug, htaken⟩]
    · rw [if_neg hslug, if_neg htaken, if_neg fun h => htaken h.2]

/-- The store with one group in place of another, and its entry in place of the other's. -/
def replaceGroup (s : Memory) (old new : Group) : Memory :=
  { s with
    groups := s.groups.insert new.id new
    namespaces := (s.namespaces.erase old.slug).insert new.slug new.namespace }

/-- **A group that is changed is replaced**, together with its entry. -/
theorem updateGroup_eq_replaceGroup (hs : s.SlugsKept) (hold : s.groups.get? g.id = some old) :
    s.updateGroup g =
      if old.slug ≠ g.slug ∧ s.namespaces.contains g.slug then .error (.slugTaken g.slug)
      else .ok (s.replaceGroup old (withTextsOf old g)) := by
  have hid : old.id = g.id := hs.groups hold
  have hparty : s.Has (.group old) := hs.groups.get? hold
  have hentry : s.namespaces.get? old.slug = some old.namespace := hs.entry_of_party hparty
  rw [updateGroup_eq hs hold, renameNamespace_eq hentry, replaceGroup,
    show (withTextsOf old g).id = g.id from hid]
  rfl

/-- The group that was put in the place of another one is there. -/
theorem has_replaceGroup (s : Memory) (old new : Group) : (s.replaceGroup old new).Has (.group new) :=
  (Table.get?_insert ..).trans (if_pos rfl)

/-- The other groups stay. -/
theorem groups_replaceGroup {new : Group} {id : String} (hid : id ≠ new.id) :
    (s.replaceGroup old new).groups.get? id = s.groups.get? id :=
  (Table.get?_insert ..).trans (if_neg hid)

/-- So do the entries under other slugs, and a slug that was given up has none. -/
theorem namespaces_replaceGroup {new : Group} (hslug : slug ≠ new.slug) :
    (s.replaceGroup old new).namespaces.get? slug =
      if slug = old.slug then none else s.namespaces.get? slug := by
  rw [replaceGroup, Table.get?_insert, if_neg hslug, Table.get?_erase]

/-! ## Deleting a group -/

/-- The slug of a group that is taken away has no entry any more. -/
theorem namespaces_deleteGroup (hg : s.Has (.group g)) :
    (s.deleteGroup g.id).2.namespaces.get? g.slug = none := by
  rw [deleteGroup, show s.groups.get? g.id = some g from hg]
  exact (Table.get?_erase ..).trans (if_pos rfl)

end Roster.Store.Memory
