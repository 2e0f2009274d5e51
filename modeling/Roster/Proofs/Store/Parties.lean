/-
# Which parties a call leaves

After a call the store holds the parties that it held before, and at most one that the
call has put there (`has_of_answer`).  What is said of all parties, such as that their
texts obey the rules, is kept by a call if it holds of the one that is put.
-/
import Roster.Proofs.Store.Slugs

namespace Roster.Store

/-- The party that a call puts into a store: a new one, or one that is there with what the call
may change of it. -/
def Call.Puts : Call → Memory → Party → Prop
  | .insertGroup g _, _, p => p = .group g
  | .updateGroup g, s, p =>
      ∃ old, s.groups.get? g.id = some old ∧ p = .group (Memory.withTextsOf old g)
  | .insertUser u, _, p => p = .user u
  | .updateProfile u, s, p =>
      ∃ old, s.users.get? u.id = some old ∧ p = .user (Memory.withProfileOf old u)
  | _, _, _ => False

namespace Memory

variable {s s' : Memory} {p : Party}

theorem has_of_insertGroup (h : s.SlugsKept) {g : Group} {owner : Member}
    (hs : s.insertGroup g owner = .ok s') (hp : s'.Has p) : s.Has p ∨ p = .group g := by
  unfold insertGroup at hs
  split at hs
  · cases hs
  · split at hs
    · cases hs
    · cases hs
      rcases (has_group_insert_iff h.groups rfl p).mp hp with hnew | ⟨hold, -⟩
      · exact .inr (Option.some.inj hnew).symm
      · exact .inl hold

theorem has_of_updateGroup (h : s.SlugsKept) {g : Group} (hs : s.updateGroup g = .ok s')
    (hp : s'.Has p) : s.Has p ∨ (Call.updateGroup g).Puts s p := by
  unfold updateGroup at hs
  split at hs
  · cases hs
  · next old hold =>
      have hput : ∀ {ns : Table Namespace},
          (⟨s.groups.insert g.id (withTextsOf old g), s.members, ns, s.users⟩ : Memory).Has p →
            s.Has p ∨ (Call.updateGroup g).Puts s p := by
        intro ns hp
        have hid : (withTextsOf old g).id = g.id := (h.groups hold :)
        rcases (has_group_insert_iff h.groups hid p).mp hp with hnew | ⟨hthere, -⟩
        · exact .inr ⟨old, hold, (Option.some.inj hnew).symm⟩
        · exact .inl hthere
      split at hs
      · cases hs
        exact hput hp
      · split at hs
        · cases hs
        · cases hs
          exact hput hp

theorem has_of_deleteGroup {id : String} (hp : (s.deleteGroup id).2.Has p) : s.Has p := by
  unfold deleteGroup at hp
  split at hp
  · exact hp
  · cases p with
    | user u => exact hp
    | group g =>
        rw [Has, Table.get?_erase] at hp
        split at hp
        · cases hp
        · exact hp

theorem has_of_insertUser (h : s.SlugsKept) {u : User} (hs : s.insertUser u = .ok s')
    (hp : s'.Has p) : s.Has p ∨ p = .user u := by
  unfold insertUser at hs
  split at hs
  · cases hs
  · split at hs
    · cases hs
    · cases hs
      rcases (has_user_insert_iff h.users rfl p).mp hp with hnew | ⟨hold, -⟩
      · exact .inr (Option.some.inj hnew).symm
      · exact .inl hold

theorem has_of_updateProfile (h : s.SlugsKept) {u : User} (hp : (s.updateProfile u).Has p) :
    s.Has p ∨ (Call.updateProfile u).Puts s p := by
  unfold updateProfile at hp
  split at hp
  · next old hold =>
      have hid : (withProfileOf old u).id = u.id := (h.users hold :)
      rcases (has_user_insert_iff h.users hid p).mp hp with hnew | ⟨hthere, -⟩
      · exact .inr ⟨old, hold, (Option.some.inj hnew).symm⟩
      · exact .inl hthere
  · exact .inl hp

/-- **A party after a call was there before, or the call has put it there.** -/
theorem has_of_answer (h : s.SlugsKept) {c : Call} (hp : (answer c s).2.Has p) :
    s.Has p ∨ c.Puts s p := by
  have hwrite : ∀ {r : Except Fault Memory},
      (∀ {s'}, r = .ok s' → s'.Has p → s.Has p ∨ c.Puts s p) →
      (s.written r).2.Has p → s.Has p ∨ c.Puts s p :=
    fun hr => written_inv (P := fun s' => s'.Has p → s.Has p ∨ c.Puts s p) .inl hr
  cases c with
  | insertGroup g owner => exact hwrite (has_of_insertGroup h) hp
  | updateGroup g => exact hwrite (has_of_updateGroup h) hp
  | deleteGroup id => exact .inl (has_of_deleteGroup hp)
  | upsertMembers groupId members =>
      refine hwrite (fun {s'} hs hp => ?_) hp
      unfold upsertMembers at hs
      split at hs
      · cases hs
        cases p with
        | group g => exact .inl hp
        | user u => exact .inl hp
      · cases hs
  | deleteMember groupId userId =>
      cases p with
      | group g => exact .inl hp
      | user u => exact .inl hp
  | insertUser u => exact hwrite (has_of_insertUser h) hp
  | updateProfile u => exact has_of_updateProfile h hp
  | countGroups | pageGroups | findGroup | listMembers | findMember | countMemberGroups
  | pageMemberGroups | findUser | findUsers | listUsers | findNamespace => exact .inl hp

end Memory

end Roster.Store
