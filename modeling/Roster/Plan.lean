/-
Plans: what a computation asks for, step by step.

A plan is a tree.  It ends with a value or a failure, or it asks something of its
surroundings and goes on from the answer.  What gives the answers is left open:
`run` answers from a state that the answers may change.  Since a plan shows where
it stops to ask, several plans can also be run in turns.
-/
import Roster.Fault

namespace Roster

/-- A computation that asks questions of type `Ask`, each with its own type of answer. -/
inductive Plan (Ask : Type) (Answer : Ask → Type) (α : Type) : Type where
  /-- The plan ends with a value. -/
  | done (a : α)
  /-- The plan ends with a failure. -/
  | fail (f : Fault)
  /-- The plan asks, and goes on from the answer. -/
  | ask (q : Ask) (next : Answer q → Plan Ask Answer α)

namespace Plan

variable {Ask : Type} {Answer : Ask → Type} {α β γ σ : Type}

/-- Goes on with the value of a plan. -/
def bind : Plan Ask Answer α → (α → Plan Ask Answer β) → Plan Ask Answer β
  | .done a, k => k a
  | .fail f, _ => .fail f
  | .ask q next, k => .ask q fun r => (next r).bind k

instance : Monad (Plan Ask Answer) where
  pure := .done
  bind := Plan.bind

@[simp] theorem pure_eq (a : α) : (pure a : Plan Ask Answer α) = .done a := rfl

@[simp] theorem done_bind (a : α) (k : α → Plan Ask Answer β) : (.done a >>= k) = k a := rfl

@[simp] theorem fail_bind (f : Fault) (k : α → Plan Ask Answer β) :
    ((.fail f : Plan Ask Answer α) >>= k) = .fail f := rfl

@[simp] theorem ask_bind (q : Ask) (next : Answer q → Plan Ask Answer α)
    (k : α → Plan Ask Answer β) : (.ask q next >>= k) = .ask q fun r => next r >>= k := rfl

theorem bind_done (p : Plan Ask Answer α) : (p >>= .done) = p := by
  induction p with
  | done a => rfl
  | fail f => rfl
  | ask q next ih => exact congrArg (Plan.ask q) (funext ih)

theorem bind_assoc (p : Plan Ask Answer α) (k : α → Plan Ask Answer β)
    (l : β → Plan Ask Answer γ) : (p >>= k >>= l) = (p >>= fun a => k a >>= l) := by
  induction p with
  | done a => rfl
  | fail f => rfl
  | ask q next ih => exact congrArg (Plan.ask q) (funext ih)

instance : LawfulMonad (Plan Ask Answer) :=
  LawfulMonad.mk' _ bind_done (fun a k => done_bind a k) bind_assoc

/-- Asks a question and ends with its answer. -/
def query (q : Ask) : Plan Ask Answer (Answer q) := .ask q .done

/-- Ends as an outcome does. -/
def ofExcept : Except Fault α → Plan Ask Answer α
  | .ok a => .done a
  | .error f => .fail f

/-- A plan that never fails: the failure becomes part of the value. -/
def attempt : Plan Ask Answer α → Plan Ask Answer (Except Fault α)
  | .done a => .done (.ok a)
  | .fail f => .done (.error f)
  | .ask q next => .ask q fun r => (next r).attempt

/-- Carries out a plan; every answer is made from a state and may change it. -/
def run (answer : (q : Ask) → σ → Answer q × σ) : Plan Ask Answer α → σ → Except Fault α × σ
  | .done a, s => (.ok a, s)
  | .fail f, s => (.error f, s)
  | .ask q next, s =>
      let (r, s') := answer q s
      (next r).run answer s'

end Plan

end Roster
