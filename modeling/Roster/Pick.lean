/-
Picking one element out of a list.
-/

namespace Roster

/-- An element of a list, with what stands before and after it. -/
structure Picked (α : Type) where
  before : List α
  found : α
  after : List α

/-- The list without the element. -/
def Picked.others (p : Picked α) : List α := p.before ++ p.after

/-- The first element that meets a condition. -/
def pick? (meets : α → Bool) : List α → Option (Picked α)
  | [] => none
  | a :: r =>
      if meets a then some ⟨[], a, r⟩
      else (pick? meets r).map fun p => { p with before := a :: p.before }

/-- The picked element meets the condition, and nothing before it does. -/
theorem pick?_eq_some {meets : α → Bool} {l : List α} {p : Picked α}
    (h : pick? meets l = some p) :
    l = p.before ++ p.found :: p.after ∧ meets p.found = true ∧
      ∀ a ∈ p.before, meets a = false := by
  induction l generalizing p with
  | nil => simp [pick?] at h
  | cons a r ih =>
    rw [pick?] at h
    split at h
    · next ha =>
      obtain rfl := Option.some.inj h
      exact ⟨rfl, ha, by simp⟩
    · next ha =>
      obtain ⟨q, hq, rfl⟩ := Option.map_eq_some_iff.1 h
      obtain ⟨hl, hm, hb⟩ := ih hq
      refine ⟨by simp [hl], hm, ?_⟩
      intro b hb'
      rcases List.mem_cons.1 hb' with rfl | hb'
      · simpa using ha
      · exact hb b hb'

/-- Nothing is picked if no element meets the condition. -/
theorem pick?_eq_none_iff {meets : α → Bool} {l : List α} :
    pick? meets l = none ↔ ∀ a ∈ l, meets a = false := by
  induction l with
  | nil => simp [pick?]
  | cons a r ih => by_cases h : meets a <;> simp [pick?, h, ih]

end Roster
