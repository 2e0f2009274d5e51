/-
# How plans end

Some things hold of the outcome of a plan whatever it is answered: by the store alone, by
one that others change in between, or by one that fails.  `Plan.Ends` says so of the plan
as a tree, so that it can be shown along the code, and `Ends.run` and `Ends.abides` carry
it to every run and to traffic.
-/
import Roster.Proofs.Traffic

namespace Roster

namespace Plan

variable {Ask : Type} {Answer : Ask → Type} {α β σ : Type}

/-- The plan ends so, whatever it is answered. -/
def Ends (Q : Except Fault α → Prop) : Plan Ask Answer α → Prop
  | .done a => Q (.ok a)
  | .fail f => Q (.error f)
  | .ask _ next => ∀ a, (next a).Ends Q

variable {p : Plan Ask Answer α}

theorem ends_of_forall {Q : Except Fault α → Prop} (h : ∀ o, Q o) : p.Ends Q := by
  induction p with
  | done a => exact h _
  | fail f => exact h _
  | ask q next ih => exact ih

theorem ends_bind {Q : Except Fault β → Prop} {k : α → Plan Ask Answer β} :
    (p >>= k).Ends Q ↔ p.Ends fun o => match o with
      | .ok a => (k a).Ends Q
      | .error f => Q (.error f) := by
  induction p with
  | done a => exact Iff.rfl
  | fail f => exact Iff.rfl
  | ask q next ih => exact forall_congr' ih

/-- A failure that is caught is one more value to end with. -/
theorem ends_attempt {Q : Except Fault (Except Fault α) → Prop} :
    p.attempt.Ends Q ↔ p.Ends fun o => Q (.ok o) := by
  induction p with
  | done a => exact Iff.rfl
  | fail f => exact Iff.rfl
  | ask q next ih => exact forall_congr' ih

variable {Q : Except Fault α → Prop}

/-- **Every run ends so**, whoever answers. -/
theorem Ends.run (h : p.Ends Q) (answer : (q : Ask) → σ → Answer q × σ) (s : σ) :
    Q (p.run answer s).1 := by
  induction p generalizing s with
  | done a => exact h
  | fail f => exact h
  | ask q next ih => exact ih _ (h _) _

end Plan

/-- What holds of all ends holds of those that traffic can lead to. -/
theorem Plan.Ends.abides {α : Type} {p : Service α} {Q : Except Fault α → Prop} (h : p.Ends Q)
    {I : Store.Memory → Prop} {past : List Service.Inquiry} :
    Service.Abides I (fun _ _ => True) (fun _ => Q) p past := by
  induction p generalizing past with
  | done a => exact h
  | fail f => exact h
  | ask q next ih => exact ⟨trivial, fun a _ _ _ _ => ih a (h a)⟩

end Roster
