/-
Rehearsals: services on a stage where everything is set by hand.

The clock shows the moment that it is set to, fresh ids are drawn in a fixed
order, and interceptions let other requests happen just before a call of the
store, or let the call fail.
-/
import Roster.Pick
import Roster.Store.Memory
import Roster.Ulid

namespace Roster.Rehearsal

/-- What happens just before a call of the store. -/
structure Interception where
  /-- The operation whose next call is met. -/
  before : Store.Operation
  /-- What happens to the store in between. -/
  meanwhile : List (Service Unit)
  /-- The failure by which the call is replaced. -/
  failure : Option Report

/-- How a store answers calls. -/
abbrev Backend (σ : Type) := (c : Store.Call) → σ → Except Fault c.Answer × σ

/-- A store with a clock, a source of ids and the interceptions to come. -/
structure Stage (σ : Type) where
  store : σ
  /-- What the clock shows, in milliseconds. -/
  moment : Nat
  /-- What chance brings for the next id. -/
  chance : Nat
  interceptions : List Interception := []

namespace Stage

variable {σ : Type} (backend : Backend σ)

/-- Makes a call. -/
def call (c : Store.Call) (s : Stage σ) : Except Fault c.Answer × Stage σ :=
  let (r, store) := backend c s.store
  (r, { s with store })

/-- Answers a question; the store is asked by way of `makeCall`. -/
def answerBy (makeCall : (c : Store.Call) → Stage σ → Except Fault c.Answer × Stage σ) :
    (q : Ask) → Stage σ → q.Answer × Stage σ
  | .store c, s => makeCall c s
  | .clock, s => ((s.moment / 1000 : Nat), s)
  | .freshId, s => (Ulid.text s.moment s.chance, { s with chance := s.chance + 1 })

/-- Runs a plan that meets no interceptions. -/
def runPlain (p : Service α) (s : Stage σ) : Except Fault α × Stage σ :=
  p.run (answerBy (call backend)) s

/-- Makes a call, after what is to happen before it. -/
def callIntercepted (c : Store.Call) (s : Stage σ) : Except Fault c.Answer × Stage σ :=
  match pick? (fun i => i.before == c.operation) s.interceptions with
  | none => call backend c s
  | some p =>
      let s := p.found.meanwhile.foldl (fun s plan => (runPlain backend plan s).2) s
      let s := { s with interceptions := p.others }
      match p.found.failure with
      | some report => (.error (.outside report), s)
      | none => call backend c s

/-- Runs a plan that meets the interceptions. -/
def run (p : Service α) (s : Stage σ) : Except Fault α × Stage σ :=
  p.run (answerBy (callIntercepted backend)) s

end Stage

/-! ## Looking at a store -/

/-- Everything that can be seen in a store. -/
structure Inventory where
  groups : List (Group × List Member)
  users : List User
  /-- The entry under the slug of each group and then of each user. -/
  namespaces : List (Option Namespace)

/-- More elements than any list has. -/
def noLimit : UInt64 := 9223372036854775807

/-- Looks at everything in a store. -/
def takeStock : Service Inventory := do
  let groups ← Service.call (.pageGroups 0 noLimit)
  let withMembers ← groups.mapM fun g => do
    return (g, ← Service.call (.listMembers g.id))
  let users ← Service.call (.listUsers none)
  let slugs := groups.map (·.slug) ++ users.map (·.slug)
  let namespaces ← slugs.mapM fun slug => Service.call (.findNamespace slug)
  return ⟨withMembers, users, namespaces⟩

/-- The id of a group that is named by its id or, after an at sign, by its slug; a name
that leads to no group stands for itself. -/
def groupId (name : String) : Service String :=
  match name.toList with
  | '@' :: slug => do
      match ← Service.call (.findGroup (String.ofList slug)) with
      | some g => return g.id
      | none => return name
  | _ => return name

end Roster.Rehearsal
