/-
# One space of slugs

Groups and users share the slugs, and the table of namespaces says whose a slug is.
`SlugsKept` is the invariant that ties the three tables together: every group and
every user has its entry under its slug, and every entry is that of a group or a
user.  Each writing call changes the parties, at most one goes and at most one
comes, and moves the entries with them; `SlugsKept.change` is the one argument for
all of them, and each call is an instance.

That no two parties share a slug is a consequence (`SlugsKept.party_eq`): the entry
under the slug names its party.
-/
import Mathlib.Logic.ExistsUnique
import Roster.Proofs.Store.Keyed
import Roster.Proofs.Traffic

namespace Roster.Store

/-- What a slug can belong to. -/
inductive Party where
  | group (g : Group)
  | user (u : User)
deriving DecidableEq

/-- The slug of a group or a user. -/
def Party.slug : Party → String
  | .group g => g.slug
  | .user u => u.slug

/-- The namespace entry of a group or a user. -/
def Party.entry : Party → Namespace
  | .group g => g.namespace
  | .user u => u.namespace

namespace Memory

/-- The store holds the group or the user under its id. -/
def Has (s : Memory) : Party → Prop
  | .group g => s.groups.get? g.id = some g
  | .user u => s.users.get? u.id = some u

/-- Groups and users stand under their ids, and namespaces are exactly their entries. -/
structure SlugsKept (s : Memory) : Prop where
  groups : s.groups.Keyed Group.id
  users : s.users.Keyed User.id
  entry_of_party : ∀ {p}, s.Has p → s.namespaces.get? p.slug = some p.entry
  party_of_entry : ∀ {k n}, s.namespaces.get? k = some n → ∃ p, s.Has p ∧ p.slug = k ∧ p.entry = n

variable {s s' : Memory}

theorem slugsKept_empty : SlugsKept {} where
  groups := Table.keyed_empty
  users := Table.keyed_empty
  entry_of_party {p} h := by
    cases p with
    | group g => cases h
    | user u => cases h
  party_of_entry h := by cases h

/-! ## An entry names its party -/

/-- Two parties of one store with the same entry are the same. -/
theorem Has.eq_of_entry {p q : Party} (hp : s.Has p) (hq : s.Has q) (h : p.entry = q.entry) :
    p = q := by
  cases p with
  | group g =>
      cases q with
      | group g' =>
          have hid : g.id = g'.id := congrArg Namespace.id h
          have he : some g = some g' := by
            rw [← show s.groups.get? g.id = some g from hp, hid]
            exact hq
          rw [Option.some.inj he]
      | user u => exact absurd (congrArg Namespace.kind h) Namespace.Kind.noConfusion
  | user u =>
      cases q with
      | group g => exact absurd (congrArg Namespace.kind h) Namespace.Kind.noConfusion
      | user u' =>
          have hid : u.id = u'.id := Option.some.inj (congrArg Namespace.userId h)
          have he : some u = some u' := by
            rw [← show s.users.get? u.id = some u from hp, hid]
            exact hq
          rw [Option.some.inj he]

/-- Two parties of one store with the same slug are the same. -/
theorem SlugsKept.party_eq (h : s.SlugsKept) {p q : Party} (hp : s.Has p) (hq : s.Has q)
    (hslug : p.slug = q.slug) : p = q := by
  refine hp.eq_of_entry hq (Option.some.inj ?_)
  rw [← h.entry_of_party hp, ← h.entry_of_party hq, hslug]

theorem SlugsKept.slug_of_entry (h : s.SlugsKept) {k : String} {n : Namespace}
    (hn : s.namespaces.get? k = some n) : n.slug = k := by
  obtain ⟨p, -, rfl, rfl⟩ := h.party_of_entry hn
  cases p with
  | group g => rfl
  | user u => rfl

/-- Every entry belongs to exactly one party. -/
theorem SlugsKept.existsUnique_party (h : s.SlugsKept) {k : String} {n : Namespace}
    (hn : s.namespaces.get? k = some n) : ∃! p, s.Has p ∧ p.entry = n := by
  obtain ⟨p, hp, -, he⟩ := h.party_of_entry hn
  exact ⟨p, ⟨hp, he⟩, fun q hq => hq.1.eq_of_entry hp (hq.2.trans he.symm)⟩

/-- No group and no user has the slug. -/
def Free (s : Memory) (slug : String) : Prop := ∀ p, s.Has p → p.slug ≠ slug

/-- So the entries alone tell which slugs are free. -/
theorem SlugsKept.free_iff (h : s.SlugsKept) {slug : String} :
    s.Free slug ↔ s.namespaces.get? slug = none := by
  constructor
  · intro hfree
    cases hn : s.namespaces.get? slug with
    | none => rfl
    | some n =>
        obtain ⟨p, hp, hslug, -⟩ := h.party_of_entry hn
        exact absurd hslug (hfree p hp)
  · rintro hnone p hp rfl
    rw [h.entry_of_party hp] at hnone
    cases hnone

/-! ## Parties go and come -/

/-- **Entries that move with their parties keep the slugs.**  A party `gone` leaves with its
entry, and a party `come` enters with its own, under a slug that was free or has just become so. -/
theorem SlugsKept.change (h : s.SlugsKept) (gone come : Option Party)
    (hgroups : s'.groups.Keyed Group.id) (husers : s'.users.Keyed User.id)
    (hgone : ∀ p, gone = some p → s.Has p)
    (hparties : ∀ p, s'.Has p ↔ come = some p ∨ (s.Has p ∧ gone ≠ some p))
    (hentries : ∀ k, s'.namespaces.get? k =
      if come.map Party.slug = some k then come.map Party.entry
      else if gone.map Party.slug = some k then none else s.namespaces.get? k)
    (hfree : ∀ p, come = some p →
      s.namespaces.get? p.slug = none ∨ gone.map Party.slug = some p.slug) :
    s'.SlugsKept where
  groups := hgroups
  users := husers
  entry_of_party {p} hp := by
    rw [hentries]
    rcases (hparties p).mp hp with rfl | ⟨hold, hstays⟩
    · exact if_pos rfl
    · -- A party that stays has a slug of its own, so neither of the two moves touches its entry.
      have hgone' : gone.map Party.slug ≠ some p.slug := by
        intro hk
        obtain ⟨q, hq, hslug⟩ := Option.map_eq_some_iff.mp hk
        exact hstays (h.party_eq hold (hgone q hq) hslug.symm ▸ hq)
      have hcome' : come.map Party.slug ≠ some p.slug := by
        intro hk
        obtain ⟨c, hc, hslug⟩ := Option.map_eq_some_iff.mp hk
        rcases hfree c hc with hnone | hfreed
        · rw [hslug, h.entry_of_party hold] at hnone
          cases hnone
        · exact hgone' (hslug ▸ hfreed)
      rw [if_neg hcome', if_neg hgone']
      exact h.entry_of_party hold
  party_of_entry {k n} hn := by
    rw [hentries] at hn
    split at hn
    · next hk =>
        obtain ⟨c, rfl, rfl⟩ := Option.map_eq_some_iff.mp hk
        exact ⟨c, (hparties c).mpr (.inl rfl), rfl, Option.some.inj hn⟩
    · next hcome =>
        split at hn
        · cases hn
        · next hgone' =>
            obtain ⟨p, hp, rfl, rfl⟩ := h.party_of_entry hn
            refine ⟨p, (hparties p).mpr (.inr ⟨hp, ?_⟩), rfl, rfl⟩
            rintro rfl
            exact hgone' rfl

/-! ## The calls -/

/-- A group put under its id comes, and the one that was there goes. -/
theorem has_group_insert_iff (h : s.groups.Keyed Group.id) {k : String} {g : Group}
    (hk : g.id = k) {ms : Table Member} {ns : Table Namespace} (p : Party) :
    (⟨s.groups.insert k g, ms, ns, s.users⟩ : Memory).Has p ↔
      some (.group g) = some p ∨ (s.Has p ∧ (s.groups.get? k).map Party.group ≠ some p) := by
  subst hk
  cases p with
  | group x =>
      refine (h.get?_insert_iff (a := g) (b := x)).trans ?_
      simp [Has, eq_comm (a := g)]
  | user u => simp [Has]

/-- A user put under its id comes, and the one that was there goes. -/
theorem has_user_insert_iff (h : s.users.Keyed User.id) {k : String} {u : User}
    (hk : u.id = k) {ms : Table Member} {ns : Table Namespace} (p : Party) :
    (⟨s.groups, ms, ns, s.users.insert k u⟩ : Memory).Has p ↔
      some (.user u) = some p ∨ (s.Has p ∧ (s.users.get? k).map Party.user ≠ some p) := by
  subst hk
  cases p with
  | group g => simp [Has]
  | user x =>
      refine (h.get?_insert_iff (a := u) (b := x)).trans ?_
      simp [Has, eq_comm (a := u)]

theorem insertGroup_slugsKept (h : s.SlugsKept) {g : Group} {owner : Member}
    (hs : s.insertGroup g owner = .ok s') : s'.SlugsKept := by
  unfold insertGroup at hs
  split at hs
  · cases hs
  · next hslug =>
      split at hs
      · cases hs
      · next hid =>
          cases hs
          rw [Table.contains, Option.not_isSome_iff_eq_none] at hslug hid
          refine h.change none (some (.group g)) (h.groups.insert rfl) h.users nofun ?_ ?_ ?_
          · intro p
            rw [has_group_insert_iff h.groups rfl, hid]
            rfl
          · intro k
            simp [Party.slug, Party.entry, eq_comm]
          · rintro p ⟨⟩
            exact .inl hslug

theorem insertUser_slugsKept (h : s.SlugsKept) {u : User} (hs : s.insertUser u = .ok s') :
    s'.SlugsKept := by
  unfold insertUser at hs
  split at hs
  · cases hs
  · next hslug =>
      split at hs
      · cases hs
      · next hid =>
          cases hs
          rw [Table.contains, Option.not_isSome_iff_eq_none] at hslug hid
          refine h.change none (some (.user u)) h.groups (h.users.insert rfl) nofun ?_ ?_ ?_
          · intro p
            rw [has_user_insert_iff h.users rfl, hid]
            rfl
          · intro k
            simp [Party.slug, Party.entry, eq_comm]
          · rintro p ⟨⟩
            exact .inl hslug

/-- A group whose slug changes takes its entry along; one whose slug stays keeps it. -/
theorem updateGroup_slugsKept (h : s.SlugsKept) {g : Group} (hs : s.updateGroup g = .ok s') :
    s'.SlugsKept := by
  unfold updateGroup at hs
  split at hs
  · cases hs
  · next old hold =>
      have hid : old.id = g.id := h.groups hold
      have hparty : s.Has (.group old) := h.groups.get? hold
      have hentry : s.namespaces.get? old.slug = some old.namespace := h.entry_of_party hparty
      have hnew : (withTextsOf old g).id = g.id := hid
      have hgone : ∀ p, some (Party.group old) = some p → s.Has p := by
        rintro p ⟨⟩
        exact hparty
      split at hs
      · next hslug =>
          cases hs
          refine h.change (some (.group old)) (some (.group (withTextsOf old g)))
            (h.groups.insert hnew) h.users hgone ?_ ?_ ?_
          · intro p
            rw [has_group_insert_iff h.groups hnew, hold]
            rfl
          · intro k
            by_cases hk : old.slug = k
            · subst hk
              refine hentry.trans ?_
              simp [Party.slug, Party.entry, Group.namespace, withTextsOf, hslug]
            · simp [Party.slug, withTextsOf, ← hslug, hk]
          · rintro p ⟨⟩
            exact .inr (congrArg some hslug)
      · next hslug =>
          split at hs
          · cases hs
          · next hfree =>
              cases hs
              rw [Table.contains, Option.not_isSome_iff_eq_none] at hfree
              refine h.change (some (.group old)) (some (.group (withTextsOf old g)))
                (h.groups.insert hnew) h.users hgone ?_ ?_ ?_
              · intro p
                rw [has_group_insert_iff h.groups hnew, hold]
                rfl
              · intro k
                simp only [renameNamespace, hentry, Table.get?_insert, Table.get?_erase, Party.slug,
                  Party.entry, Option.map_some, withTextsOf, Option.some.injEq, eq_comm]
                rfl
              · rintro p ⟨⟩
                exact .inl hfree

theorem deleteGroup_slugsKept (h : s.SlugsKept) (id : String) : (s.deleteGroup id).2.SlugsKept := by
  unfold deleteGroup
  split
  · exact h
  · next g hg =>
      refine h.change (some (.group g)) none (h.groups.erase id) h.users ?_ ?_ ?_ nofun
      · rintro p ⟨⟩
        exact h.groups.get? hg
      · intro p
        cases p with
        | group x =>
            refine h.groups.get?_erase_iff.trans ?_
            simp [Has, hg]
        | user u => simp [Has]
      · intro k
        simp [Party.slug, eq_comm]

/-- The profile is no part of a user's entry. -/
theorem updateProfile_slugsKept (h : s.SlugsKept) (u : User) : (s.updateProfile u).SlugsKept := by
  unfold updateProfile
  split
  · next old hold =>
      have hid : old.id = u.id := h.users hold
      have hparty : s.Has (.user old) := h.users.get? hold
      have hnew : (withProfileOf old u).id = u.id := hid
      refine h.change (some (.user old)) (some (.user (withProfileOf old u))) h.groups
        (h.users.insert hnew) ?_ ?_ ?_ ?_
      · rintro p ⟨⟩
        exact hparty
      · intro p
        rw [has_user_insert_iff h.users hnew, hold]
        rfl
      · intro k
        by_cases hk : old.slug = k
        · subst hk
          refine (h.entry_of_party hparty).trans ?_
          simp [Party.slug, Party.entry, User.namespace, withProfileOf]
        · simp [Party.slug, withProfileOf, hk]
      · rintro p ⟨⟩
        exact .inr rfl
  · exact h

/-- Memberships have nothing to do with slugs. -/
theorem SlugsKept.of_eq (h : s.SlugsKept) (hg : s'.groups = s.groups) (hu : s'.users = s.users)
    (hn : s'.namespaces = s.namespaces) : s'.SlugsKept := by
  cases s with
  | mk groups members namespaces users =>
      cases s' with
      | mk groups' members' namespaces' users' =>
          subst hg hu hn
          exact ⟨h.groups, h.users, h.entry_of_party, h.party_of_entry⟩

/-- What holds of a store holds after a write that fails, and after one that succeeds if the
write keeps it. -/
theorem written_inv {P : Memory → Prop} (hs : P s) {r : Except Fault Memory}
    (hr : ∀ {s'}, r = .ok s' → P s') : P (s.written r).2 := by
  cases r with
  | ok s' => exact hr rfl
  | error f => exact hs

/-- **Every call keeps the slugs**, whatever its arguments. -/
theorem answer_slugsKept (c : Call) (h : s.SlugsKept) : (answer c s).2.SlugsKept := by
  cases c with
  | insertGroup g owner => exact written_inv h (insertGroup_slugsKept h)
  | updateGroup g => exact written_inv h (updateGroup_slugsKept h)
  | deleteGroup id => exact deleteGroup_slugsKept h id
  | upsertMembers groupId members =>
      refine written_inv h fun {s'} hs => ?_
      unfold upsertMembers at hs
      split at hs
      · cases hs
        exact h.of_eq rfl rfl rfl
      · cases hs
  | deleteMember groupId userId => exact h.of_eq rfl rfl rfl
  | insertUser u => exact written_inv h (insertUser_slugsKept h)
  | updateProfile u => exact updateProfile_slugsKept h u
  | countGroups | pageGroups | findGroup | listMembers | findMember | countMemberGroups
  | pageMemberGroups | findUser | findUsers | listUsers | findNamespace => exact h

/-- The store that calls leave, one after the other. -/
def after (s : Memory) (calls : List Call) : Memory := calls.foldl (fun s c => (answer c s).2) s

theorem after_slugsKept (calls : List Call) (h : s.SlugsKept) : (s.after calls).SlugsKept := by
  induction calls generalizing s with
  | nil => exact h
  | cons c calls ih => exact ih (answer_slugsKept c h)

theorem after_append (calls : List Call) (c : Call) :
    s.after (calls ++ [c]) = (answer c (s.after calls)).2 := by
  simp [after]

/-- **Namespaces, groups and users correspond to each other** after any calls with any arguments.
The store of any traffic is one that calls have left, so it is of this kind, too. -/
theorem namespaces_match_parties (calls : List Call) :
    let s := after {} calls
    (∀ k g, s.groups.get? k = some g → g.id = k ∧ s.namespaces.get? g.slug = some
      { id := g.id, slug := g.slug, kind := .group, groupId := some g.id, userId := none,
        createdBy := g.createdBy, createTime := g.createTime }) ∧
    (∀ k u, s.users.get? k = some u → u.id = k ∧ s.namespaces.get? u.slug = some
      { id := u.namespaceId, slug := u.slug, kind := .user, groupId := none, userId := some u.id,
        createdBy := u.id, createTime := u.createTime }) ∧
    (∀ k n, s.namespaces.get? k = some n → n.slug = k ∧ ∃! p, s.Has p ∧ p.entry = n) ∧
    (∀ p q, s.Has p → s.Has q → p.slug = q.slug → p = q) ∧
    ∀ {D : Service.Desk} {t : Service.Traffic D}, t.Reached → ∃ more, t.store = after {} more := by
  intro s
  have h : s.SlugsKept := after_slugsKept calls slugsKept_empty
  refine ⟨fun k g hg => ?_, fun k u hu => ?_, fun k n hn => ?_, fun p q hp hq => ?_, fun ht => ?_⟩
  · exact ⟨h.groups hg, h.entry_of_party (p := .group g) (h.groups.get? hg)⟩
  · exact ⟨h.users hu, h.entry_of_party (p := .user u) (h.users.get? hu)⟩
  · exact ⟨h.slug_of_entry hn, h.existsUnique_party hn⟩
  · exact h.party_eq hp hq
  · refine ht.store_inv (I := fun s => ∃ more, s = after {} more) ⟨[], rfl⟩ ?_
    rintro c _ ⟨more, rfl⟩
    exact ⟨more ++ [c], (after_append more c).symm⟩

end Memory

end Roster.Store
