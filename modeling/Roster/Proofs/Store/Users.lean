/-
# Calls that change users

Two calls concern users: one adds a user with its namespace, the other sets the profile of
a user that is known.  Each is meant for one user (`Call.user?`) and changes nothing else,
neither another user nor a group (`OnlyUser`).  Such changes of one user add up to such a
change (`OnlyUser.trans`), so a request may make several of them.
-/
import Roster.Proofs.Store.Slugs

namespace Roster.Store

/-- The user whose record a call is meant to change. -/
def Call.user? : Call → Option String
  | .insertUser u | .updateProfile u => some u.id
  | _ => none

namespace Memory

/-- Nothing has changed but the record of one user: it has another profile, or it is new and has
brought its namespace. -/
inductive OnlyUser (s : Memory) (id : String) : Memory → Prop where
  | same : OnlyUser s id s
  | profile {u : User} (firstName lastName email : Option String) (updateTime : Int)
      (hu : s.users.get? id = some u) :
      OnlyUser s id
        { s with users := s.users.insert id { u with firstName, lastName, email, updateTime } }
  | added {u : User} (hid : u.id = id) (hnew : s.users.get? id = none)
      (hslug : s.namespaces.get? u.slug = none) :
      OnlyUser s id
        { s with
          namespaces := s.namespaces.insert u.slug u.namespace
          users := s.users.insert id u }

variable {s s' s'' : Memory} {id : String}

theorem OnlyUser.groups (h : s.OnlyUser id s') : s'.groups = s.groups ∧ s'.members = s.members := by
  cases h with
  | same | profile | added => exact ⟨rfl, rfl⟩

theorem OnlyUser.others (h : s.OnlyUser id s') {k : String} (hk : k ≠ id) :
    s'.users.get? k = s.users.get? k := by
  cases h with
  | same => rfl
  | profile | added => simp [hk]

theorem OnlyUser.trans (h : s.OnlyUser id s') (h' : s'.OnlyUser id s'') : s.OnlyUser id s'' := by
  cases h' with
  | same => exact h
  | @profile v firstName lastName email updateTime hv =>
      cases h with
      | same => exact .profile firstName lastName email updateTime hv
      | @profile u _ _ _ _ hu =>
          have hv' := (Table.get?_insert ..).symm.trans hv
          rw [if_pos rfl] at hv'
          cases hv'
          rw [Table.insert_insert]
          exact .profile (u := u) firstName lastName email updateTime hu
      | added hid hnew hslug =>
          have hv' := (Table.get?_insert ..).symm.trans hv
          rw [if_pos rfl] at hv'
          cases hv'
          rw [Table.insert_insert]
          exact .added (u := { v with firstName, lastName, email, updateTime }) hid hnew hslug
  | added hid hnew hslug =>
      cases h with
      | same => exact .added hid hnew hslug
      | profile | added =>
          -- The user is there after the first change, so it cannot be added by the second.
          rw [show (Table.insert _ _ _).get? id = _ from Table.get?_insert .., if_pos rfl] at hnew
          cases hnew

/-- **A call that is meant for a user changes only this user.** -/
theorem answer_onlyUser {c : Call} (hc : c.user? = some id) (s : Memory) :
    s.OnlyUser id (answer c s).2 := by
  cases c with
  | insertUser u =>
      cases hc
      refine written_inv (P := s.OnlyUser u.id) .same fun {s'} hs => ?_
      unfold insertUser at hs
      split at hs
      · cases hs
      · next hslug =>
          split at hs
          · cases hs
          · next hid =>
              cases hs
              rw [Table.contains, Option.not_isSome_iff_eq_none] at hslug hid
              exact .added rfl hid hslug
  | updateProfile u =>
      cases hc
      show s.OnlyUser u.id (s.updateProfile u)
      unfold updateProfile
      split
      · next old hold => exact .profile u.firstName u.lastName u.email u.updateTime hold
      · exact .same
  | _ => cases hc

/-- The other calls change no user. -/
theorem answer_users {c : Call} (hc : c.user? = none) (s : Memory) :
    (answer c s).2.users = s.users := by
  have hkeep : ∀ {r : Except Fault Memory}, (∀ {s'}, r = .ok s' → s'.users = s.users) →
      (s.written r).2.users = s.users :=
    fun hr => written_inv (P := fun s' => s'.users = s.users) rfl hr
  cases c with
  | insertUser u | updateProfile u => cases hc
  | insertGroup g owner =>
      refine hkeep fun {s'} hs => ?_
      unfold insertGroup at hs
      split at hs
      · cases hs
      · split at hs
        · cases hs
        · cases hs
          rfl
  | updateGroup g =>
      refine hkeep fun {s'} hs => ?_
      unfold updateGroup at hs
      split at hs
      · cases hs
      · split at hs
        · cases hs
          rfl
        · split at hs
          · cases hs
          · cases hs
            rfl
  | deleteGroup id =>
      show (s.deleteGroup id).2.users = s.users
      unfold deleteGroup
      split <;> rfl
  | upsertMembers groupId members =>
      refine hkeep fun {s'} hs => ?_
      unfold upsertMembers at hs
      split at hs
      · cases hs
        rfl
      · cases hs
  | deleteMember groupId userId => rfl
  | countGroups | pageGroups | findGroup | listMembers | findMember | countMemberGroups
  | pageMemberGroups | findUser | findUsers | listUsers | findNamespace => rfl

end Memory

end Roster.Store
