/-
# What a number costs its base

A base is cut to make room for a number, and the separator is taken off at which the cut may
fall.  Not more than that one is lost beyond the cut, since in a slug no two separators stand
side by side (`length_le_of_apart`).  A slug made of a text does not end in a separator, so it
is kept whole where there is room for it (`stem_eq_self`).

A word of 32 bits has ten digits at most, so there is always room for most of the base
(`length_numberEnding_le`).
-/
import Roster.Proofs.Slug.OfText

namespace Roster.Slug

open Roster.Field (maxLength)

variable {cs : List Char} {base : String} {n : Nat}

/-! ## The stem of a numbered slug -/

/-- Where separators stand apart, there is at most one at the end. -/
theorem length_le_of_apart (h : SeparatorsApart cs) :
    cs.length ≤ (Text.cutEnd isSeparator cs).length + 1 := by
  rcases cs.eq_nil_or_concat' with rfl | ⟨r, c, rfl⟩
  · exact Nat.zero_le _
  · by_cases hc : isSeparator c
    · have hlast : ∀ d, r.getLast? = some d → isSeparator d = false := by
        intro d hd
        have hnot := (List.isChain_append.mp h).2.2 d hd c rfl
        exact Bool.eq_false_iff.mpr fun hsep => hnot ⟨hsep, hc⟩
      rw [Text.cutEnd_eq_rdropWhile, List.rdropWhile_concat_pos _ _ _ hc,
        ← Text.cutEnd_eq_rdropWhile, Text.cutEnd_eq_self hlast, List.length_append,
        List.length_singleton]
    · rw [Text.cutEnd_eq_rdropWhile, List.rdropWhile_concat_neg _ _ _ hc]
      exact Nat.le_succ _

/-- A base that does not end in a separator is kept whole, if there is room for it. -/
theorem stem_eq_self (hlast : ∀ c, base.toList.getLast? = some c → isSeparator c = false)
    (hroom : base.toList.length + (numberEnding n).length ≤ maxLength) :
    stem base n = base.toList := by
  rw [stem, List.take_of_length_le (by omega), Text.cutEnd_eq_self hlast]

/-- Of what there is room for, not more than one character is lost. -/
theorem length_le_length_stem (hbase : Valid base) (n : Nat) :
    min base.toList.length (maxLength - (numberEnding n).length) ≤ (stem base n).length + 1 := by
  obtain ⟨-, -, happart, -⟩ := valid_iff.mp hbase
  have htake : SeparatorsApart (base.toList.take (maxLength - (numberEnding n).length)) :=
    List.IsChain.prefix (hasDoubledSeparator_eq_false_iff.mp happart) (List.take_prefix _ _)
  have hle := length_le_of_apart htake
  rwa [List.length_take, Nat.min_comm] at hle

theorem length_numberEnding_le (h : n < UInt32.size) : (numberEnding n).length ≤ 11 := by
  rw [length_numberEnding]
  exact Nat.succ_le_succ ((Nat.length_toDigits_le_iff (by decide) (by decide)).mpr
    (h.trans (by decide)))

/-! ## Numbered slugs of made slugs -/

/-- No base ends in a separator. -/
theorem IsBase.isSeparator_of_getLast? (h : IsBase base) :
    ∀ c, base.toList.getLast? = some c → isSeparator c = false := by
  intro c hc
  rcases h with ⟨text, htext⟩ | rfl
  · obtain ⟨-, -, hlast⟩ := made_of_ofText? htext
    exact hlast c hc
  · cases hc
    rfl

/-- **There is always a slug with a number**, for every base and every word of 32 bits.  The
number leaves room for a part of the base, and what stands before it is as much of the base as
there is room for, but for one character at most.  No number shares its slug with another. -/
theorem numbered_bases_are_distinct_slugs {base : String} (hbase : IsBase base) {n : Nat}
    (hn : n < UInt32.size) :
    (numberEnding n).length ≤ maxLength ∧ Valid (numbered base n) ∧
      (numbered base n).toList.length ≤ 99 ∧
      (∃ head, (numbered base n).toList = head ++ '-' :: Nat.toDigits 10 n ∧
        head ≠ [] ∧ head <+: base.toList ∧
        min base.toList.length (maxLength - (numberEnding n).length) ≤ head.length + 1 ∧
        (base.toList.length + (numberEnding n).length ≤ maxLength → head = base.toList)) ∧
      ∀ m, m ≠ n → numbered base m ≠ numbered base n := by
  have hvalid : Valid base := hbase.valid
  have hroom : (numberEnding n).length < maxLength :=
    Nat.lt_of_le_of_lt (length_numberEnding_le hn) (by decide)
  obtain ⟨c, r, hcons, -⟩ := exists_stem_eq_cons hvalid hroom
  refine ⟨hroom.le, valid_numbered hvalid hroom, length_numbered_le hroom.le, ?_, ?_⟩
  · refine ⟨stem base n, ?_, ?_, stem_isPrefixOf base n, length_le_length_stem hvalid n,
      stem_eq_self hbase.isSeparator_of_getLast?⟩
    · rw [toList_numbered, numberEnding_eq]
    · rw [hcons]
      exact List.cons_ne_nil c r
  · exact fun m hne h => hne (numbered_inj h)

/-- The largest number leaves 88 characters to a base of 99, and the cut falls at the separator. -/
theorem base_cut_at_separator :
    let base := String.ofList (List.replicate 87 'a' ++ '-' :: List.replicate 11 'b')
    IsBase base ∧ 4294967295 < UInt32.size ∧ Valid (numbered base 4294967295) ∧
      (numbered base 4294967295).toList = List.replicate 87 'a' ++ "-4294967295".toList ∧
      ∀ m, m ≠ 4294967295 → numbered base m ≠ numbered base 4294967295 := by
  intro base
  have hcs : base.toList = List.replicate 87 'a' ++ '-' :: List.replicate 11 'b' :=
    String.toList_ofList
  have hbase : IsBase base := by
    refine .inl ⟨base, ofText?_eq_self ?_ ?_ ?_⟩
    · rw [Valid, hcs]
      decide +kernel
    · intro c hc
      rw [hcs, List.mem_append, List.mem_cons] at hc
      rcases hc with hc | rfl | hc
      · rw [List.eq_of_mem_replicate hc]
        rfl
      · rfl
      · rw [List.eq_of_mem_replicate hc]
        rfl
    · rw [hcs]
      intro c hc
      cases hc
      rfl
  have hword : 4294967295 < UInt32.size := by decide
  have hstem : stem base 4294967295 = List.replicate 87 'a' := by
    rw [stem, hcs]
    decide +kernel
  obtain ⟨-, hvalid, -, -, hdistinct⟩ := numbered_bases_are_distinct_slugs hbase hword
  refine ⟨hbase, hword, hvalid, ?_, hdistinct⟩
  rw [toList_numbered, hstem, numberEnding_eq]
  rfl

end Roster.Slug
