/-
# Sorted records

The store lists records in the order of their keys.  Keys that tell the records apart
leave no choice: there is one list in that order, it is strictly ascending, and it is the
same in whatever order the records were taken from their table.
-/
import Mathlib.Data.List.Nodup
import Roster.Proofs.Page
import Roster.Proofs.Store.Keyed
import Roster.Store.Memory

namespace Roster.Store

variable {α : Type} {key : α → SortKey} {l l' : List α}

/-- One key stands strictly before another. -/
def SortKey.Precedes (a b : SortKey) : Prop := a.1 < b.1 ∨ a.1 = b.1 ∧ a.2 < b.2

theorem SortKey.precedes_of_le_of_ne {a b : SortKey} (h : a.le b = true) (hne : a ≠ b) :
    a.Precedes b := by
  rcases SortKey.le_iff.mp h with hlt | ⟨heq, hle⟩
  · exact .inl hlt
  · exact .inr ⟨heq, Std.lt_of_le_of_ne hle fun hid => hne (Prod.ext heq hid)⟩

/-- Records with different keys stand in strictly ascending order once they are sorted. -/
theorem pairwise_precedes_sortOn (h : l.Pairwise fun a b => key a ≠ key b) :
    (sortOn key l).Pairwise fun a b => (key a).Precedes (key b) := by
  have hne : (sortOn key l).Pairwise fun a b => key a ≠ key b :=
    (sortOn_perm key l).symm.pairwise h fun hab => hab.symm
  exact ((pairwise_sortOn key l).and hne).imp fun hab =>
    SortKey.precedes_of_le_of_ne hab.1 hab.2

/-- A list that is in the order of keys that tell its elements apart is the sorted list. -/
theorem eq_sortOn (hperm : l'.Perm l) (hsorted : l'.Pairwise fun a b => (key a).le (key b))
    (hinj : ∀ a ∈ l, ∀ b ∈ l, key a = key b → a = b) : l' = sortOn key l := by
  refine List.Perm.eq_of_pairwise (fun a b ha hb hab hba => ?_) hsorted (pairwise_sortOn key l)
    (hperm.trans (sortOn_perm key l).symm)
  exact hinj a (hperm.mem_iff.mp ha) b ((sortOn_perm key l).mem_iff.mp hb)
    (SortKey.le_antisymm hab hba)

/-- The sorted list does not depend on the order in which the records are taken. -/
theorem sortOn_eq_of_perm (hperm : l'.Perm l) (h : l.Pairwise fun a b => key a ≠ key b) :
    sortOn key l' = sortOn key l := by
  refine eq_sortOn ((sortOn_perm key l').trans hperm) (pairwise_sortOn key l') ?_
  exact fun a ha b hb => List.inj_on_of_nodup_map (List.pairwise_map.mpr h) ha hb

/-- The groups of a table that is keyed by their ids have different keys. -/
theorem pairwise_groupKey_ne {t : Table Group} (ht : t.Keyed Group.id) :
    t.values.Pairwise fun a b => groupKey a ≠ groupKey b :=
  ht.pairwise_values.imp fun hlt heq => String.ne_of_lt hlt (congrArg Prod.snd heq)

/-- **The window of a page** is the part of the list that the page shows, also where the offset
is cut off: both lie behind the end of the list then. -/
theorem window_offset (r : Page.Request) (hl : l.length < UInt64.size) :
    window r.offset r.perPage l = r.shown l := by
  have hoffset := r.toNat_offset
  unfold window Page.Request.shown Page.slice
  by_cases hcut : (r.page.toNat - 1) * r.perPage.toNat ≤ UInt64.size - 1
  · rw [hoffset, Nat.min_eq_left hcut]
  · rw [hoffset, List.drop_eq_nil_of_le, List.drop_eq_nil_of_le]
    · omega
    · omega

end Roster.Store
