/-
The order of lists.

Records are listed by a time and, at the same time, by a text.  Texts compare
code point by code point.
-/

namespace Roster.Store

/-- What records are ordered by. -/
abbrev SortKey := Int × String

/-- One key stands before another or is the same. -/
def SortKey.le (a b : SortKey) : Bool :=
  a.1 < b.1 || (a.1 == b.1 && a.2 ≤ b.2)

theorem SortKey.le_iff {a b : SortKey} :
    SortKey.le a b = true ↔ a.1 < b.1 ∨ (a.1 = b.1 ∧ a.2 ≤ b.2) := by
  simp [SortKey.le]

theorem SortKey.le_trans {a b c : SortKey} (hab : a.le b = true) (hbc : b.le c = true) :
    a.le c = true := by
  rw [SortKey.le_iff] at *
  rcases hab with hab | ⟨hab, hab'⟩ <;> rcases hbc with hbc | ⟨hbc, hbc'⟩
  · exact .inl (by omega)
  · exact .inl (by omega)
  · exact .inl (by omega)
  · exact .inr ⟨hab.trans hbc, String.le_trans hab' hbc'⟩

theorem SortKey.le_total (a b : SortKey) : (a.le b || b.le a) = true := by
  rw [Bool.or_eq_true, SortKey.le_iff, SortKey.le_iff]
  rcases Int.lt_trichotomy a.1 b.1 with h | h | h
  · exact .inl (.inl h)
  · rcases String.le_total a.2 b.2 with h' | h'
    · exact .inl (.inr ⟨h, h'⟩)
    · exact .inr (.inr ⟨h.symm, h'⟩)
  · exact .inr (.inl h)

theorem SortKey.le_antisymm {a b : SortKey} (hab : a.le b = true) (hba : b.le a = true) :
    a = b := by
  rw [SortKey.le_iff] at *
  rcases hab with hab | ⟨hab, hab'⟩ <;> rcases hba with hba | ⟨hba, hba'⟩
  · omega
  · omega
  · omega
  · exact Prod.ext hab (String.le_antisymm hab' hba')

/-- The records in ascending order of their keys; those with the same key keep their order. -/
def sortOn (key : α → SortKey) (l : List α) : List α :=
  l.mergeSort fun a b => (key a).le (key b)

theorem sortOn_perm (key : α → SortKey) (l : List α) : (sortOn key l).Perm l :=
  List.mergeSort_perm _ _

theorem pairwise_sortOn (key : α → SortKey) (l : List α) :
    (sortOn key l).Pairwise fun a b => (key a).le (key b) = true :=
  List.pairwise_mergeSort
    (fun a b c (hab : (key a).le (key b) = true) (hbc : (key b).le (key c) = true) =>
      SortKey.le_trans hab hbc)
    (fun a b => SortKey.le_total (key a) (key b)) l

end Roster.Store
