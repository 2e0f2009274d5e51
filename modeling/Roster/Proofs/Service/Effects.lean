/-
# What a question of a request does to the store

Seven forms of writes (`Request.Writes`) come to three effects.  Most questions do
nothing.  A request that registers its caller writes the caller's own record and
nothing else, be it a new one or the one it has found.  What the other requests
write leaves all users as they are.

The record that a request has found stands under its id, because users do so in every
store that keeps the slugs; this is the one place where the effects depend on what
was answered before.
-/
import Roster.Proofs.Service.Writing
import Roster.Proofs.Store.Users

namespace Roster.Service

open Store (Call Memory)
open Store.Memory (SlugsKept)

namespace Request

/-- The request is meant to change groups or memberships. -/
def ChangesGroups : Request → Prop
  | .createGroup .. | .updateGroup .. | .deleteGroup .. | .updateMembers .. | .removeMember .. =>
      True
  | _ => False

/-- What a question of a request can do to the store. -/
inductive Effect (r : Request) (s : Memory) : Memory → Prop where
  | nothing : Effect r s s
  /-- The record of the caller is made or brought up to date. -/
  | own {c : Caller} {id : String} {s' : Memory} (hr : r.Registers c) (hid : c.id = some id)
      (h : s.OnlyUser id s') : Effect r s s'
  | groups {s' : Memory} (hr : r.ChangesGroups) (h : s'.users = s.users) : Effect r s s'

variable {r : Request} {past : List Inquiry}

/-- A write is meant for the caller that the request registers, or for no user. -/
theorem Writes.user? {call : Call} (hpast : ∀ d ∈ past, d.before.SlugsKept)
    (h : r.Writes past call) :
    (∃ c id, r.Registers c ∧ c.id = some id ∧ call.user? = some id) ∨
      r.ChangesGroups ∧ call.user? = none := by
  cases h with
  | newGroup | patchedGroup | deletion | roles | removal => exact .inr ⟨trivial, rfl⟩
  | newUser hr hid => exact .inl ⟨_, _, hr, hid, rfl⟩
  | @profile _ c id u time s _ hr hid hfound hu =>
      have hs : s.SlugsKept := hpast _ hfound
      have huser : u.id = id := hs.users hu
      exact .inl ⟨c, id, hr, hid, congrArg some huser⟩

/-- **A question does what the request is for**: nothing, the caller's own record, or groups. -/
theorem Asks.effect {e : Inquiry} (hpast : ∀ d ∈ past, d.before.SlugsKept) (he : e.Possible)
    (h : r.Asks past e.ask) : r.Effect e.before e.after := by
  cases he with
  | clock now s => exact .nothing
  | freshId s _ => exact .nothing
  | call call s =>
      rcases h with hlooks | hwrites
      · show r.Effect s (Memory.answer call s).2
        rw [hlooks.same]
        exact .nothing
      · rcases hwrites.user? hpast with ⟨c, id, hr, hid, huser⟩ | ⟨hr, huser⟩
        · exact .own hr hid (Memory.answer_onlyUser huser s)
        · exact .groups hr (Memory.answer_users huser s)

end Request

end Roster.Service
