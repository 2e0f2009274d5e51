/-
# How a caller alone is registered

With nobody in between, a slug that is found free is still free when the user is added.
So the attempts of a new caller end with the first slug that is free, and if there is none
among them, the caller is refused and nothing has changed (`run_register`).

There would always be a free slug further on: the numbered slugs of a base are all
different, and a store has finitely many entries (`exists_free_candidate`).
-/
import Mathlib.Data.List.Nodup
import Mathlib.Data.List.Perm.Subperm
import Roster.Proofs.Service.Listing
import Roster.Proofs.Slug

namespace Roster.Service

open Store (Memory)

/-! ## The slugs of the attempts -/

namespace Users

theorem candidate_inj {base : String} {m n : Nat} (hm : m ≠ 1) (hn : n ≠ 1)
    (h : candidate base m = candidate base n) : m = n := by
  rw [candidate, candidate, if_neg hm, if_neg hn] at h
  exact Slug.numbered_inj h

/-- **Some slug of the unending list `base`, `base-2`, `base-3`, … is free.** -/
theorem exists_free_candidate (s : Memory) (base : String) :
    ∃ n, 1 ≤ n ∧ s.namespaces.get? (candidate base n) = none := by
  refine Classical.byContradiction fun hnone => ?_
  have hall : ∀ n, 1 ≤ n → ∃ e, s.namespaces.get? (candidate base n) = some e := fun n hn =>
    Option.ne_none_iff_exists'.mp fun hfree => hnone ⟨n, hn, hfree⟩
  -- One numbered slug more than there are entries would all have entries of their own.
  let slugs := (List.range' 2 (s.namespaces.size + 1)).map (candidate base)
  have hnodup : slugs.Nodup := by
    refine List.Nodup.map_on (fun m hm n hn h => ?_) List.nodup_range'
    have hm' := List.mem_range'_1.mp hm
    have hn' := List.mem_range'_1.mp hn
    exact candidate_inj (by omega) (by omega) h
  have hsubset : slugs ⊆ s.namespaces.entries.map (·.1) := by
    intro slug hslug
    obtain ⟨n, hn, rfl⟩ := List.mem_map.mp hslug
    have hn' := List.mem_range'_1.mp hn
    obtain ⟨e, he⟩ := hall n (by omega)
    exact List.mem_map.mpr ⟨_, Table.mem_entries_iff.mpr he, rfl⟩
  have hle : slugs.length ≤ s.namespaces.size := by
    simpa [Table.size] using (List.subperm_of_subset hnodup hsubset).length_le
  simp only [slugs, List.length_map, List.length_range'] at hle
  omega

/-- The first of the attempts whose slug is free. -/
def firstFree? (s : Memory) (base : String) (attempts : List Nat) : Option Nat :=
  attempts.find? fun n => (s.namespaces.get? (candidate base n)).isNone

theorem firstFree?_eq_none_iff {s : Memory} {base : String} {attempts : List Nat} :
    firstFree? s base attempts = none ↔
      ∀ n ∈ attempts, s.namespaces.get? (candidate base n) ≠ none := by
  simp [firstFree?]

end Users

/-! ## A caller alone -/

variable {c : Caller} {id : String} {w : World}

/-- **A new caller gets the first slug that is free**, or is refused with nothing changed. -/
theorem run_register (c : Caller) (base : String) (hnew : w.store.users.get? id = none)
    (attempts : List Nat) :
    match Users.firstFree? w.store base attempts with
    | some n =>
        let user := Users.newUser c id (Users.candidate base n) (w.supply.ids 0) (w.supply.times 0)
        ∃ w', (Users.register c id base attempts).run World.answer w = (.ok user, w') ∧
          w'.store = (Memory.answer (.insertUser user) w.store).2
    | none =>
        ∃ w', (Users.register c id base attempts).run World.answer w =
          (.error (.noSlugLeft id), w') ∧ w'.store = w.store := by
  induction attempts generalizing w with
  | nil => exact ⟨w, rfl, rfl⟩
  | cons attempt rest ih =>
      unfold Users.register
      rw [run_call]
      simp only [Memory.answer]
      cases hslug : w.store.namespaces.get? (Users.candidate base attempt) with
      | some n =>
          have hnext : Users.firstFree? w.store base (attempt :: rest) =
              Users.firstFree? w.store base rest := by
            simp [Users.firstFree?, hslug]
          rw [hnext]
          exact ih (w := w.after (.findNamespace (Users.candidate base attempt))) hnew
      | none =>
          have hfirst : Users.firstFree? w.store base (attempt :: rest) = some attempt := by
            simp [Users.firstFree?, hslug]
          rw [hfirst]
          dsimp only
          rw [run_now, run_freshId, run_tryCall]
          have hins := answer_insertUser_of_new (s := w.store) (u := Users.newUser c id
            (Users.candidate base attempt) (w.supply.ids 0) (w.supply.times 0)) hslug hnew
          simp only [World.after, World.answer, Memory.answer] at hins ⊢
          rw [hins]
          exact ⟨_, rfl, rfl⟩

theorem run_refresh_ok (u : User) (c : Caller) (w : World) :
    ∃ own w', (Users.refresh u c).run World.answer w = (.ok own, w') := by
  unfold Users.refresh
  split
  · exact ⟨_, _, rfl⟩
  · exact ⟨_, _, rfl⟩

/-- The caller is known, or one of the slugs that are tried is free. -/
def CanRegister (s : Memory) (c : Caller) (id : String) : Prop :=
  s.users.contains id ∨
    ∃ n ∈ List.range' 1 Users.maxAttempts,
      s.namespaces.get? (Users.candidate (Users.slugBase c id) n) = none

/-- A caller alone is registered, or is refused for want of a slug with nothing changed. -/
theorem alone_ensure (hid : c.id = some id) (s : Memory) (σ : Supply) :
    (CanRegister s c id → ∃ u, (alone (Users.ensure c) s σ).1 = .ok u) ∧
    (¬ CanRegister s c id → (alone (Users.ensure c) s σ).1 = .error (.noSlugLeft id) ∧
      (alone (Users.ensure c) s σ).2.store = s) := by
  unfold alone
  cases hknown : s.users.get? id with
  | some u =>
      have hcan : CanRegister s c id := .inl (Table.contains_iff.mpr ⟨u, hknown⟩)
      obtain ⟨own, w', hrun⟩ := run_refresh_ok u c (World.after (.findUser id) ⟨s, σ, []⟩)
      rw [run_ensure_of_known hid hknown, hrun]
      exact ⟨fun _ => ⟨own, rfl⟩, fun h => absurd hcan h⟩
  | none =>
      have hrun := run_register c (Users.slugBase c id)
        (w := World.after (.findUser id) ⟨s, σ, []⟩) hknown (List.range' 1 Users.maxAttempts)
      rw [show (World.after (.findUser id) ⟨s, σ, []⟩).store = s from rfl] at hrun
      rw [run_ensure_of_new hid hknown]
      cases hfirst : Users.firstFree? s (Users.slugBase c id) (List.range' 1 Users.maxAttempts) with
      | some n =>
          rw [hfirst] at hrun
          obtain ⟨w', hrun, -⟩ := hrun
          have hcan : CanRegister s c id :=
            .inr ⟨n, List.mem_of_find?_eq_some hfirst, by simpa using List.find?_some hfirst⟩
          exact ⟨fun _ => ⟨_, congrArg Prod.fst hrun⟩, fun h => absurd hcan h⟩
      | none =>
          rw [hfirst] at hrun
          obtain ⟨w', hrun, hstore⟩ := hrun
          have hcannot : ¬ CanRegister s c id := by
            rintro (hknows | ⟨n, hn, hfree⟩)
            · rw [Table.contains, hknown] at hknows
              cases hknows
            · exact Users.firstFree?_eq_none_iff.mp hfirst n hn hfree
          rw [hrun]
          exact ⟨fun h => absurd h hcannot, fun _ => ⟨rfl, hstore⟩⟩

end Roster.Service
