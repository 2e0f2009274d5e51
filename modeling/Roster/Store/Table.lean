/-
Tables: finite maps from texts to values.

A table lists its entries in strictly ascending order of their keys, so that two
tables that hold the same values under the same keys are equal (`ext`).  Each
operation is described by what it does to `get?`.
-/

namespace Roster

/-- A finite map from texts to values. -/
structure Table (α : Type) where
  entries : List (String × α) := []
  ascending : entries.Pairwise (fun a b => a.1 < b.1) := by exact List.Pairwise.nil
deriving Repr, DecidableEq

namespace Table

variable {α : Type}

instance : Inhabited (Table α) := ⟨{}⟩

/-! ## Lists of entries -/

/-- The value of the first entry with a key. -/
def findIn (k : String) : List (String × α) → Option α
  | [] => none
  | e :: r => if e.1 = k then some e.2 else findIn k r

/-- Puts an entry in its place among ascending ones, and replaces one with the same key. -/
def insertIn (k : String) (v : α) : List (String × α) → List (String × α)
  | [] => [(k, v)]
  | e :: r =>
      if k < e.1 then (k, v) :: e :: r
      else if k = e.1 then (k, v) :: r
      else e :: insertIn k v r

theorem findIn_insertIn_self (k : String) (v : α) (l : List (String × α)) :
    findIn k (insertIn k v l) = some v := by
  induction l with
  | nil => simp [insertIn, findIn]
  | cons e r ih =>
    rw [insertIn]
    split
    · simp [findIn]
    · split
      · simp [findIn]
      · next h => simp [findIn, Ne.symm h, ih]

theorem findIn_insertIn_ne {k j : String} (h : j ≠ k) (v : α) (l : List (String × α)) :
    findIn j (insertIn k v l) = findIn j l := by
  induction l with
  | nil => simp [insertIn, findIn, Ne.symm h]
  | cons e r ih =>
    rw [insertIn]
    split
    · simp [findIn, Ne.symm h]
    · split
      · next hk => subst hk; simp [findIn, Ne.symm h]
      · by_cases he : e.1 = j <;> simp [findIn, he, ih]

theorem mem_insertIn {k : String} {v : α} {l : List (String × α)} {e : String × α}
    (h : e ∈ insertIn k v l) : e = (k, v) ∨ e ∈ l := by
  induction l with
  | nil => simpa [insertIn] using h
  | cons d r ih =>
    rw [insertIn] at h
    split at h
    · simpa using h
    · split at h
      · rcases List.mem_cons.1 h with rfl | h
        · exact .inl rfl
        · exact .inr (List.mem_cons_of_mem _ h)
      · rcases List.mem_cons.1 h with rfl | h
        · exact .inr List.mem_cons_self
        · exact (ih h).imp id (List.mem_cons_of_mem _)

theorem ascending_insertIn (k : String) (v : α) {l : List (String × α)}
    (h : l.Pairwise (fun a b => a.1 < b.1)) :
    (insertIn k v l).Pairwise (fun a b => a.1 < b.1) := by
  induction l with
  | nil => simp [insertIn]
  | cons e r ih =>
    have he := List.pairwise_cons.1 h
    rw [insertIn]
    split
    · next hlt =>
      refine List.pairwise_cons.2 ⟨fun d hd => ?_, h⟩
      rcases List.mem_cons.1 hd with rfl | hd
      · exact hlt
      · exact String.lt_trans hlt (he.1 d hd)
    · split
      · next hk =>
        subst hk
        exact List.pairwise_cons.2 ⟨fun d hd => he.1 d hd, he.2⟩
      · next hlt hk =>
        have hgt : e.1 < k := Std.lt_of_le_of_ne (String.not_lt.1 hlt) (Ne.symm hk)
        refine List.pairwise_cons.2 ⟨fun d hd => ?_, ih he.2⟩
        rcases mem_insertIn hd with rfl | hd
        · exact hgt
        · exact he.1 d hd

theorem findIn_eq_some_iff {k : String} {v : α} {l : List (String × α)}
    (h : l.Pairwise (fun a b => a.1 < b.1)) : findIn k l = some v ↔ (k, v) ∈ l := by
  induction l with
  | nil => simp [findIn]
  | cons e r ih =>
    have he := List.pairwise_cons.1 h
    rw [findIn]
    split
    · next hk =>
      constructor
      · intro hv
        cases hv
        exact hk ▸ List.mem_cons_self
      · intro hm
        rcases List.mem_cons.1 hm with rfl | hm
        · rfl
        · exact absurd (he.1 _ hm) (hk ▸ String.lt_irrefl _)
    · next hk =>
      rw [ih he.2]
      constructor
      · exact List.mem_cons_of_mem _
      · intro hm
        rcases List.mem_cons.1 hm with rfl | hm
        · exact absurd rfl hk
        · exact hm

theorem findIn_filter {p : String × α → Bool} {k : String} {l : List (String × α)}
    (h : l.Pairwise (fun a b => a.1 < b.1)) :
    findIn k (l.filter p) = (findIn k l).filter fun v => p (k, v) := by
  apply Option.ext
  intro v
  rw [findIn_eq_some_iff (h.filter p), List.mem_filter, Option.filter_eq_some_iff,
    findIn_eq_some_iff h]

/-- Ascending lists that answer alike are equal. -/
theorem eq_of_findIn {l₁ l₂ : List (String × α)} (h₁ : l₁.Pairwise (fun a b => a.1 < b.1))
    (h₂ : l₂.Pairwise (fun a b => a.1 < b.1)) (h : ∀ k, findIn k l₁ = findIn k l₂) : l₁ = l₂ := by
  have mem (e : String × α) : e ∈ l₁ ↔ e ∈ l₂ := by
    rw [← findIn_eq_some_iff h₁, ← findIn_eq_some_iff h₂, h]
  have nodup {l : List (String × α)} (hl : l.Pairwise (fun a b => a.1 < b.1)) : l.Nodup :=
    hl.imp fun {a b} hab => fun (he : a = b) => String.lt_irrefl b.1 (he ▸ hab)
  refine List.Perm.eq_of_pairwise ?_ h₁ h₂
    ((List.perm_ext_iff_of_nodup (nodup h₁) (nodup h₂)).2 mem)
  exact fun a b _ _ hab hba => absurd hba (String.lt_asymm hab)

/-! ## Tables -/

/-- The value under a key. -/
def get? (t : Table α) (k : String) : Option α := findIn k t.entries

/-- There is a value under the key. -/
def contains (t : Table α) (k : String) : Bool := (t.get? k).isSome

/-- Puts a value under a key, in place of one that was there. -/
def insert (t : Table α) (k : String) (v : α) : Table α :=
  ⟨insertIn k v t.entries, ascending_insertIn k v t.ascending⟩

/-- Keeps the entries that have a property. -/
def filter (t : Table α) (p : String → α → Bool) : Table α :=
  ⟨t.entries.filter fun e => p e.1 e.2, t.ascending.filter _⟩

/-- Takes away what is under a key. -/
def erase (t : Table α) (k : String) : Table α := t.filter fun j _ => j ≠ k

/-- The values, in ascending order of their keys. -/
def values (t : Table α) : List α := t.entries.map (·.2)

/-- The number of entries. -/
def size (t : Table α) : Nat := t.entries.length

@[ext] theorem ext {s t : Table α} (h : ∀ k, s.get? k = t.get? k) : s = t := by
  cases s with | mk l₁ h₁ => cases t with | mk l₂ h₂ =>
  congr
  exact eq_of_findIn h₁ h₂ h

@[simp] theorem get?_empty (k : String) : (({} : Table α)).get? k = none := rfl

@[simp] theorem get?_insert (t : Table α) (k : String) (v : α) (j : String) :
    (t.insert k v).get? j = if j = k then some v else t.get? j := by
  split
  · next h => exact h ▸ findIn_insertIn_self k v t.entries
  · next h => exact findIn_insertIn_ne h v t.entries

@[simp] theorem get?_filter (t : Table α) (p : String → α → Bool) (k : String) :
    (t.filter p).get? k = (t.get? k).filter (p k) := findIn_filter t.ascending

@[simp] theorem get?_erase (t : Table α) (k j : String) :
    (t.erase k).get? j = if j = k then none else t.get? j := by
  rw [erase, get?_filter]
  split
  · next h => subst h; cases t.get? j <;> simp
  · next h => cases t.get? j <;> simp [h]

theorem mem_entries_iff {t : Table α} {k : String} {v : α} :
    (k, v) ∈ t.entries ↔ t.get? k = some v := (findIn_eq_some_iff t.ascending).symm

theorem mem_values_iff {t : Table α} {v : α} : v ∈ t.values ↔ ∃ k, t.get? k = some v := by
  simp only [values, List.mem_map, Prod.exists, ← mem_entries_iff]
  constructor
  · rintro ⟨k, _, hk, rfl⟩
    exact ⟨k, hk⟩
  · rintro ⟨k, hk⟩
    exact ⟨k, v, hk, rfl⟩

theorem contains_iff {t : Table α} {k : String} : t.contains k = true ↔ ∃ v, t.get? k = some v :=
  Option.isSome_iff_exists

end Table

end Roster
