/-
# Traffic by a schedule

A schedule says whose turn it is, time after time, and a supply what the clock shows and
which ids are given out.  With both of them fixed, traffic can be computed, and what is
computed is traffic (`Traffic.steps_play`).  Statements that some order of turns leads
to some store are proved by computing it.
-/
import Mathlib.Data.List.Induction
import Roster.Proofs.Alone

namespace Roster.Service

open Store (Memory)

variable {D : Desk}

/-- The supply after one turn. -/
def Supply.next (σ : Supply) : Supply := ⟨fun n => σ.times (n + 1), fun n => σ.ids (n + 1)⟩

/-- The turn of one flight; one that has ended stays as it is. -/
def Flight.advance (σ : Supply) (s : Memory) : Flight D → Memory × Flight D
  | ⟨r, past, .ask (.store c) next⟩ =>
      ((Memory.answer c s).2, ⟨r, .ofCall c s :: past, next (Memory.answer c s).1⟩)
  | ⟨r, past, .ask .clock next⟩ =>
      (s, ⟨r, ⟨.clock, σ.times 0, s, s⟩ :: past, next (σ.times 0)⟩)
  | ⟨r, past, .ask .freshId next⟩ =>
      (s, ⟨r, ⟨.freshId, σ.ids 0, s, s⟩ :: past, next (σ.ids 0)⟩)
  | f => (s, f)

/-- The turn of the flight at a place in the list. -/
def advanceAt (σ : Supply) (s : Memory) : List (Flight D) → Nat → Traffic D
  | [], _ => ⟨s, []⟩
  | f :: fs, 0 => ⟨(f.advance σ s).1, (f.advance σ s).2 :: fs⟩
  | f :: fs, i + 1 => ⟨(advanceAt σ s fs i).store, f :: (advanceAt σ s fs i).flights⟩

/-- The flights have their turns in the order of the schedule. -/
def Traffic.play (σ : Supply) : List Nat → Traffic D → Traffic D
  | [], t => t
  | i :: schedule, t => play σ.next schedule (advanceAt σ t.store t.flights i)

theorem Flight.advance_turn {σ : Supply} (hσ : σ.Shaped) (s : Memory) (f : Flight D) :
    f.advance σ s = (s, f) ∨ Flight.Turn s f (f.advance σ s).1 (f.advance σ s).2 := by
  obtain ⟨r, past, rest⟩ := f
  cases rest with
  | done a => exact .inl rfl
  | fail e => exact .inl rfl
  | ask q next =>
      cases q with
      | store c => exact .inr (.answered (e := .ofCall c s) next (.call c s))
      | clock => exact .inr (.answered (e := ⟨.clock, σ.times 0, s, s⟩) next (.clock _ s))
      | freshId => exact .inr (.answered (e := ⟨.freshId, σ.ids 0, s, s⟩) next (.freshId s (hσ 0)))

theorem steps_advanceAt {σ : Supply} (hσ : σ.Shaped) (s : Memory) (l fs : List (Flight D))
    (i : Nat) : Relation.ReflTransGen Traffic.Step ⟨s, l ++ fs⟩
      ⟨(advanceAt σ s fs i).store, l ++ (advanceAt σ s fs i).flights⟩ := by
  induction fs generalizing l i with
  | nil => exact .refl
  | cons f fs ih =>
      cases i with
      | zero =>
          show Relation.ReflTransGen _ _ (⟨(f.advance σ s).1, l ++ (f.advance σ s).2 :: fs⟩ : Traffic D)
          rcases f.advance_turn hσ s with hstay | hturn
          · rw [hstay]
          · exact .single (.turn l fs hturn)
      | succ i =>
          have hrest := ih (l ++ [f]) i
          simp only [List.append_assoc, List.singleton_append] at hrest
          exact hrest

/-- **What a schedule makes of traffic is traffic.** -/
theorem Traffic.steps_play {σ : Supply} (hσ : σ.Shaped) (schedule : List Nat) (t : Traffic D) :
    Relation.ReflTransGen Traffic.Step t (t.play σ schedule) := by
  induction schedule generalizing σ t with
  | nil => exact .refl
  | cons i schedule ih =>
      refine (steps_advanceAt hσ t.store [] t.flights i).trans ?_
      exact ih (σ := σ.next) (fun n => hσ (n + 1)) _

/-- Requests may arrive before any of them has its turn. -/
theorem Traffic.reached_arrivals (rs : List D.Request) :
    (⟨{}, rs.map .start⟩ : Traffic D).Reached := by
  induction rs using List.reverseRecOn with
  | nil => exact .refl
  | append_singleton rs r ih =>
      rw [List.map_append]
      exact ih.tail (.arrive {} _ r)

end Roster.Service
