/-
# Tables keyed by their values

A table whose every value stands under a key of its own.  Then a value is known by
its key, the list of values has no repetitions, and putting a value under its key
or taking keys away keeps the table so.
-/
import Roster.Store.Table

namespace Roster.Table

variable {α : Type}

/-- Every value stands under its own key. -/
def Keyed (key : α → String) (t : Table α) : Prop := ∀ ⦃k a⦄, t.get? k = some a → key a = k

variable {key : α → String} {t : Table α}

theorem keyed_empty : Keyed key ({} : Table α) := by
  intro k a h
  rw [get?_empty] at h
  cases h

theorem Keyed.get? (ht : t.Keyed key) {k : String} {a : α} (h : t.get? k = some a) :
    t.get? (key a) = some a := by
  rw [ht h, h]

theorem Keyed.insert (ht : t.Keyed key) {k : String} {a : α} (ha : key a = k) :
    (t.insert k a).Keyed key := by
  intro j b h
  rw [get?_insert] at h
  split at h
  · next hj =>
      cases h
      exact ha.trans hj.symm
  · exact ht h

theorem Keyed.filter (ht : t.Keyed key) (p : String → α → Bool) : (t.filter p).Keyed key := by
  intro k a h
  rw [get?_filter, Option.filter_eq_some_iff] at h
  exact ht h.1

theorem Keyed.erase (ht : t.Keyed key) (k : String) : (t.erase k).Keyed key := ht.filter _

/-- After a value was put under its key, the values are this one and those that stood under
other keys. -/
theorem Keyed.get?_insert_iff (ht : t.Keyed key) {a b : α} :
    (t.insert (key a) a).get? (key b) = some b ↔
      b = a ∨ (t.get? (key b) = some b ∧ t.get? (key a) ≠ some b) := by
  rw [get?_insert]
  split
  · next hk =>
      rw [← hk]
      constructor
      · intro h
        exact .inl (Option.some.inj h).symm
      · rintro (rfl | ⟨h, hne⟩)
        · rfl
        · exact absurd h hne
  · next hk =>
      constructor
      · intro h
        exact .inr ⟨h, fun hb => hk (ht hb)⟩
      · rintro (rfl | ⟨h, -⟩)
        · exact absurd rfl hk
        · exact h

theorem Keyed.get?_erase_iff (ht : t.Keyed key) {k : String} {b : α} :
    (t.erase k).get? (key b) = some b ↔ t.get? (key b) = some b ∧ t.get? k ≠ some b := by
  rw [get?_erase]
  split
  · next hk =>
      rw [hk]
      exact ⟨nofun, fun h => absurd h.1 h.2⟩
  · next hk => exact ⟨fun h => ⟨h, fun hb => hk (ht hb)⟩, And.left⟩

theorem Keyed.mem_values_iff (ht : t.Keyed key) {a : α} :
    a ∈ t.values ↔ t.get? (key a) = some a := by
  rw [Table.mem_values_iff]
  constructor
  · rintro ⟨k, hk⟩
    exact ht.get? hk
  · intro h
    exact ⟨_, h⟩

/-- The values stand in strictly ascending order of their keys. -/
theorem Keyed.pairwise_values (ht : t.Keyed key) :
    t.values.Pairwise fun a b => key a < key b := by
  refine List.pairwise_map.mpr (t.ascending.imp_of_mem ?_)
  intro a b ha hb hab
  rw [ht (mem_entries_iff.mp ha), ht (mem_entries_iff.mp hb)]
  exact hab

theorem get?_erase_self (t : Table α) (k : String) : (t.erase k).get? k = none :=
  (get?_erase ..).trans (if_pos rfl)

theorem get?_erase_eq_some_iff {k j : String} {a : α} :
    (t.erase k).get? j = some a ↔ j ≠ k ∧ t.get? j = some a := by
  rw [get?_erase]
  split
  · next hj => exact ⟨nofun, fun h => absurd hj h.1⟩
  · next hj => exact ⟨fun h => ⟨hj, h⟩, And.right⟩

/-- What is put under a key takes the place of what was put there before. -/
theorem insert_insert (t : Table α) (k : String) (a b : α) :
    (t.insert k a).insert k b = t.insert k b := by
  ext1 j
  rw [get?_insert, get?_insert, get?_insert]
  split <;> rfl

theorem insert_erase (t : Table α) (k : String) (a : α) : (t.erase k).insert k a = t.insert k a := by
  ext1 j
  rw [get?_insert, get?_insert, get?_erase]
  split
  · rfl
  · rfl

/-- What is there under a key may be put there again. -/
theorem insert_self {k : String} {a : α} (h : t.get? k = some a) : t.insert k a = t := by
  ext1 j
  rw [get?_insert]
  split
  · next hj => rw [hj, h]
  · rfl

theorem length_values (t : Table α) : t.values.length = t.size := List.length_map ..

end Roster.Table
