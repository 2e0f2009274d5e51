/-
# Pages of a list

What a request for a page means: `slice`, in natural numbers and without any bound.
The words of 64 bits come to the same as long as the list has fewer elements than the
largest word, because an offset that is cut off still lies behind the end of the list.
-/
import Mathlib.Data.Set.List
import Roster.Page

namespace Roster.Page

variable {α : Type}

/-! ## Slices -/

/-- The elements on a page, if each page has `size` of them; pages count from one. -/
def slice (page size : Nat) (l : List α) : List α := (l.drop ((page - 1) * size)).take size

/-- The number of pages that `total` elements fill. -/
def pages (total size : Nat) : Nat := (total + size - 1) / size

/-- The part of a list that a request asks for. -/
def Request.shown (r : Request) (l : List α) : List α := slice r.page.toNat r.perPage.toNat l

theorem pages_le_iff {total size n : Nat} (hsize : 0 < size) :
    pages total size ≤ n ↔ total ≤ n * size := by
  rw [pages, ← Nat.lt_succ_iff, Nat.div_lt_iff_lt_mul hsize, Nat.succ_mul]
  omega

/-- The first pages, one after the other, are the beginning of the list. -/
theorem flatMap_slice (size n : Nat) (l : List α) :
    (List.range' 1 n).flatMap (slice · size l) = l.take (n * size) := by
  induction n with
  | zero => simp
  | succ n ih =>
      rw [List.range'_concat, List.flatMap_append, ih]
      simp only [List.flatMap_singleton, slice, Nat.one_mul, Nat.add_sub_cancel_left]
      rw [Nat.succ_mul, List.take_add]

/-- All pages, one after the other, are the list. -/
theorem flatMap_slice_pages {size : Nat} (hsize : 0 < size) (l : List α) :
    (List.range' 1 (pages l.length size)).flatMap (slice · size l) = l := by
  rw [flatMap_slice]
  exact List.take_of_length_le ((pages_le_iff hsize).mp (Nat.le_refl _))

/-- Behind the last page there is nothing. -/
theorem slice_eq_nil {page size : Nat} {l : List α} (hsize : 0 < size)
    (h : pages l.length size < page) : slice page size l = [] := by
  have hlength : l.length ≤ (page - 1) * size := (pages_le_iff hsize).mp (Nat.le_sub_one_of_lt h)
  rw [slice, List.drop_eq_nil_of_le hlength, List.take_nil]

/-- Requests for all pages, one after the other, ask for the list. -/
theorem flatMap_shown {size : Nat} (hsize : 0 < size) {l : List α} {asked : List Request}
    (hperPage : ∀ r ∈ asked, r.perPage.toNat = size)
    (hpage : asked.map (·.page.toNat) = List.range' 1 (pages l.length size)) :
    asked.flatMap (·.shown l) = l := by
  refine Eq.trans ?_ (flatMap_slice_pages hsize l)
  rw [← hpage, List.flatMap_map, List.flatMap_def, List.flatMap_def]
  refine congrArg List.flatten (List.map_congr_left fun r hr => ?_)
  rw [← hperPage r hr]
  rfl

/-! ## Requests -/

/-- All numbers in range make a request. -/
theorem Request.exists_of {page perPage : UInt64} (hpage : 1 ≤ page.toNat)
    (hpos : 1 ≤ perPage.toNat) (hle : perPage.toNat ≤ 100) :
    ∃ r, Request.of page perPage = .ok r ∧ r.page = page ∧ r.perPage = perPage := by
  have hpage' : 1 ≤ page := UInt64.le_iff_toNat_le.mpr hpage
  have hsize : 1 ≤ perPage ∧ perPage ≤ maxSize :=
    ⟨UInt64.le_iff_toNat_le.mpr hpos, UInt64.le_iff_toNat_le.mpr hle⟩
  exact ⟨⟨page, perPage, hpage', hsize.1, hsize.2⟩, by rw [of, dif_pos hpage', dif_pos hsize],
    rfl, rfl⟩

/-- There are requests for all pages of a list whose length is a word. -/
theorem exists_requests {perPage : UInt64} {total : Nat} (hpos : 1 ≤ perPage.toNat)
    (hle : perPage.toNat ≤ 100) (htotal : total < UInt64.size) :
    ∃ asked : List Request, (∀ r ∈ asked, r.perPage = perPage) ∧
      asked.map (·.page.toNat) = List.range' 1 (pages total perPage.toNat) := by
  have hpages : pages total perPage.toNat ≤ total :=
    (pages_le_iff hpos).mpr (Nat.le_mul_of_pos_right total hpos)
  have hall : (List.range' 1 (pages total perPage.toNat)).map (·, perPage) ∈
      Set.range (List.map fun r : Request => (r.page.toNat, r.perPage)) := by
    rw [Set.range_list_map]
    rintro _ hp
    obtain ⟨n, hn, rfl⟩ := List.mem_map.mp hp
    obtain ⟨hone, hlt⟩ := List.mem_range'_1.mp hn
    have hword : (UInt64.ofNat n).toNat = n := UInt64.toNat_ofNat_of_lt' (by omega)
    obtain ⟨r, -, hrpage, hrperPage⟩ := Request.exists_of (hword.symm ▸ hone) hpos hle
    exact ⟨r, Prod.ext ((congrArg UInt64.toNat hrpage).trans hword) hrperPage⟩
  obtain ⟨asked, hasked⟩ := hall
  refine ⟨asked, fun r hr => ?_, ?_⟩
  · have hmem : (r.page.toNat, r.perPage) ∈ (List.range' 1 (pages total perPage.toNat)).map
        (·, perPage) := hasked ▸ List.mem_map_of_mem hr
    obtain ⟨n, -, hn⟩ := List.mem_map.mp hmem
    exact (congrArg Prod.snd hn).symm
  · have hnumbers := congrArg (List.map Prod.fst) hasked
    rw [List.map_map, List.map_map] at hnumbers
    exact hnumbers.trans (List.map_id _)

/-! ## In words -/

theorem Request.page_toNat_pos (r : Request) : 1 ≤ r.page.toNat :=
  UInt64.le_iff_toNat_le.mp r.page_pos

theorem Request.perPage_toNat_pos (r : Request) : 1 ≤ r.perPage.toNat :=
  UInt64.le_iff_toNat_le.mp r.perPage_pos

theorem Request.perPage_ne_zero (r : Request) : r.perPage ≠ 0 := fun hzero =>
  absurd r.perPage_toNat_pos (by rw [hzero]; decide)

theorem toNat_sub_one {n : UInt64} (h : 1 ≤ n.toNat) : (n - 1).toNat = n.toNat - 1 :=
  UInt64.toNat_sub_of_le n 1 (UInt64.le_iff_toNat_le.mpr h)

/-- Nothing that is taken away from the numbers of a request makes them wrap around. -/
theorem Request.sub_one_add_one (r : Request) :
    (r.page - 1).toNat + 1 = r.page.toNat ∧ (r.perPage - 1).toNat + 1 = r.perPage.toNat ∧
      (r.offset ≠ 0 → (r.offset - 1).toNat + 1 = r.offset.toNat) := by
  have hback : ∀ {n : UInt64}, 1 ≤ n.toNat → (n - 1).toNat + 1 = n.toNat := by
    intro n h
    rw [toNat_sub_one h, Nat.sub_add_cancel h]
  refine ⟨hback r.page_toNat_pos, hback r.perPage_toNat_pos, fun hne => hback ?_⟩
  exact Nat.pos_of_ne_zero fun h => hne (UInt64.toNat_inj.mp h)

/-- The offset is what it should be, or the largest word if that is larger. -/
theorem Request.toNat_offset (r : Request) :
    r.offset.toNat = min ((r.page.toNat - 1) * r.perPage.toNat) (UInt64.size - 1) := by
  rw [offset, saturatingMul, toNat_sub_one r.page_toNat_pos]
  exact UInt64.toNat_ofNat_of_lt' (by simp only [UInt64.size]; omega)

theorem pages_eq (total : Nat) {size : Nat} (hsize : 0 < size) :
    pages total size = if total % size = 0 then total / size else total / size + 1 := by
  have hlt : total % size < size := Nat.mod_lt total hsize
  have hsplit : size * (total / size) + total % size = total := Nat.div_add_mod total size
  split
  · next h =>
      refine Nat.le_antisymm ((pages_le_iff hsize).mpr ?_) (Nat.div_le_div_right (by omega))
      rw [Nat.mul_comm]
      omega
  · next h =>
      refine Nat.le_antisymm ((pages_le_iff hsize).mpr ?_) ?_
      · rw [Nat.succ_mul, Nat.mul_comm]
        omega
      · rw [pages, Nat.le_div_iff_mul_le hsize, Nat.succ_mul, Nat.mul_comm]
        omega

/-- The number of pages is what it should be. -/
theorem toNat_totalPages {total perPage : UInt64} (h : 1 ≤ perPage.toNat) :
    (totalPages total perPage).toNat = pages total.toNat perPage.toNat := by
  have hmax : max perPage 1 = perPage := by
    show (if perPage ≤ 1 then 1 else perPage) = perPage
    split
    · next hle => exact UInt64.le_antisymm (UInt64.le_iff_toNat_le.mpr h) hle
    · rfl
  rw [totalPages, hmax, pages_eq _ h]
  have hmod : total % perPage = 0 ↔ total.toNat % perPage.toNat = 0 := by
    rw [← UInt64.toNat_inj, UInt64.toNat_mod]
    rfl
  simp only [hmod]
  split
  · exact UInt64.toNat_div ..
  · next hrest =>
      -- A rest means pages of two or more, so the number is far from the largest word.
      have hsize : 2 ≤ perPage.toNat := by
        refine Nat.lt_of_le_of_ne h fun he => hrest ?_
        rw [← he, Nat.mod_one]
      have hhalf : total.toNat / perPage.toNat ≤ total.toNat / 2 :=
        Nat.div_le_div_left hsize (by decide)
      have htotal : total.toNat < UInt64.size := total.toNat_lt_size
      rw [UInt64.toNat_add, UInt64.toNat_div]
      exact Nat.mod_eq_of_lt (by simp only [UInt64.size, UInt64.toNat_one] at *; omega)

end Roster.Page
