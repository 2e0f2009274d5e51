/-
# The rule of slugs

A slug is judged by the list of its characters.  The four parts of the rule are told
apart here (`valid_iff`), the two that are computed by recursion as statements about the
list: all its characters are of the right kind (`wellSpelled_iff`), and no two neighbours
are separators (`hasDoubledSeparator_eq_false_iff`).

Numbered slugs obey the rule because their number stands behind a stem that does not end
in a separator (`valid_numbered`), and they tell their numbers, since a number ends at the
last hyphen (`numbered_inj`).
-/
import Mathlib.Data.List.Chain
import Mathlib.Data.List.DropRight
import Mathlib.Data.List.TakeWhile
import Roster.Slug

namespace Roster

namespace Text

variable {p : Char → Bool} {cs : List Char}

theorem cutEnd_eq_rdropWhile (p : Char → Bool) (cs : List Char) :
    cutEnd p cs = cs.rdropWhile p := rfl

theorem cutEnd_ne_nil {c : Char} (hc : c ∈ cs) (hp : p c = false) : cutEnd p cs ≠ [] := by
  intro h
  rw [cutEnd_eq_rdropWhile, List.rdropWhile_eq_nil_iff] at h
  rw [h c hc] at hp
  cases hp

/-- Nothing is cut off behind a character that is to stay. -/
theorem cutEnd_eq_self (h : ∀ c, cs.getLast? = some c → p c = false) : cutEnd p cs = cs := by
  rw [cutEnd_eq_rdropWhile, List.rdropWhile_eq_self_iff]
  intro hne
  rw [h _ (List.getLast?_eq_some_getLast hne)]
  exact Bool.false_ne_true

end Text

namespace Slug

open Roster.Field (maxLength)

variable {cs : List Char} {base s : String} {n : Nat}

/-! ## The parts of the rule -/

/-- The characters that a slug is spelled with. -/
def IsSpelling (c : Char) : Prop := c.isAlphanum ∨ isSeparator c

theorem isSeparator_of_isAlphanum {c : Char} (h : c.isAlphanum) : isSeparator c = false := by
  rw [Bool.eq_false_iff]
  intro hsep
  simp only [isSeparator, Bool.or_eq_true, beq_iff_eq] at hsep
  rcases hsep with (rfl | rfl) | rfl <;> exact absurd h (by decide)

theorem wellSpelled_iff : wellSpelled cs ↔
    (∃ c r, cs = c :: r ∧ c.isAlphanum) ∧ ∀ c ∈ cs, IsSpelling c := by
  cases cs with
  | nil => simp [wellSpelled]
  | cons c r =>
      simp only [wellSpelled, Bool.and_eq_true, List.all_eq_true, Bool.or_eq_true, List.mem_cons,
        forall_eq_or_imp, IsSpelling]
      constructor
      · rintro ⟨hc, hr⟩
        exact ⟨⟨c, r, rfl, hc⟩, .inl hc, hr⟩
      · rintro ⟨⟨_, _, heq, hc⟩, -, hr⟩
        cases heq
        exact ⟨hc, hr⟩

theorem hasDoubledSeparator_eq_false_iff : hasDoubledSeparator cs = false ↔
    cs.IsChain fun c d => ¬ (isSeparator c ∧ isSeparator d) := by
  induction cs with
  | nil => exact iff_of_true rfl .nil
  | cons c r ih =>
      cases r with
      | nil => exact iff_of_true rfl (.singleton c)
      | cons d r => simp [hasDoubledSeparator, ih]

/-- A reserved ending ends in `t` or `m`. -/
theorem getLast?_of_hasReservedEnding (h : hasReservedEnding cs) :
    cs.getLast? = some 't' ∨ cs.getLast? = some 'm' := by
  simp only [hasReservedEnding, reservedEndings, List.any_cons, List.any_nil, Bool.or_false,
    Bool.or_eq_true, List.isSuffixOf_iff_suffix] at h
  rcases h with ⟨stem, rfl⟩ | ⟨stem, rfl⟩
  · exact .inl (List.getLast?_append_of_ne_nil stem (by decide))
  · exact .inr (List.getLast?_append_of_ne_nil stem (by decide))

theorem valid_iff : Valid s ↔ s.toList.length ≤ maxLength ∧ wellSpelled s.toList ∧
    hasDoubledSeparator s.toList = false ∧ hasReservedEnding s.toList = false := by
  unfold Valid defect?
  constructor
  · intro h
    split at h
    · cases h
    · next hlength =>
        split at h
        · cases h
        · next hspelled =>
            split at h
            · cases h
            · next happart =>
                split at h
                · cases h
                · next hending =>
                    simp only [Bool.not_eq_true', Bool.not_eq_false] at hspelled
                    exact ⟨Nat.not_lt.mp (not_or.mp hlength).2, hspelled,
                      Bool.eq_false_iff.mpr happart, Bool.eq_false_iff.mpr hending⟩
  · rintro ⟨hlength, hspelled, happart, hending⟩
    have hne : s.toList.length ≠ 0 := by
      intro h
      rw [List.eq_nil_of_length_eq_zero h] at hspelled
      cases hspelled
    rw [if_neg (not_or.mpr ⟨hne, Nat.not_lt.mpr hlength⟩), hspelled, happart, hending]
    rfl

/-- What a text gives is a slug. -/
theorem valid_of_ofText? {text : String} (h : ofText? text = some s) : Valid s := by
  simp only [ofText?] at h
  split at h
  · next hdraft =>
      rw [← Option.some.inj h, Valid, String.toList_ofList]
      exact hdraft
  · cases h

/-! ## Numbered slugs -/

/-- The bases of numbered slugs: what texts give, and the word that stands in if none gives any. -/
def IsBase (base : String) : Prop := (∃ text, ofText? text = some base) ∨ base = "user"

theorem IsBase.valid (h : IsBase base) : Valid base := by
  rcases h with ⟨text, htext⟩ | rfl
  · exact valid_of_ofText? htext
  · decide

theorem isDigit_of_mem_toString {c : Char} (h : c ∈ (toString n).toList) : c.isDigit := by
  rw [Nat.toString_eq_ofList_toDigits, String.toList_ofList] at h
  exact Nat.isDigit_of_mem_toDigits (by decide) (by decide) h

theorem toString_toList_ne_nil : (toString n).toList ≠ [] := by
  rw [Nat.toString_eq_ofList_toDigits, String.toList_ofList]
  exact Nat.toDigits_ne_nil

theorem isAlphanum_of_isDigit {c : Char} (h : c.isDigit) : c.isAlphanum := by
  simp [Char.isAlphanum, h]

/-- The stem of a numbered slug: what its base has room for, without separators at the end. -/
def stem (base : String) (n : Nat) : List Char :=
  Text.cutEnd isSeparator (base.toList.take (maxLength - (numberEnding n).length))

theorem toList_numbered : (numbered base n).toList = stem base n ++ numberEnding n :=
  String.toList_ofList

theorem stem_isPrefixOf (base : String) (n : Nat) : stem base n <+: base.toList :=
  (Text.cutEnd_isPrefixOf _ _).trans (List.take_prefix _ _)

theorem numberEnding_eq (n : Nat) : numberEnding n = '-' :: Nat.toDigits 10 n := by
  rw [numberEnding, Nat.toString_eq_ofList_toDigits, String.toList_ofList]

theorem length_numberEnding (n : Nat) :
    (numberEnding n).length = (Nat.toDigits 10 n).length + 1 := by
  rw [numberEnding_eq, List.length_cons]

/-- The stem begins as its base does, if the number leaves room for it. -/
theorem exists_stem_eq_cons (hbase : Valid base) (hroom : (numberEnding n).length < maxLength) :
    ∃ c r, stem base n = c :: r ∧ c.isAlphanum := by
  obtain ⟨-, hspelled, -, -⟩ := valid_iff.mp hbase
  obtain ⟨⟨c, r, hcons, hc⟩, -⟩ := wellSpelled_iff.mp hspelled
  have hne : stem base n ≠ [] := by
    refine Text.cutEnd_ne_nil (c := c) ?_ (isSeparator_of_isAlphanum hc)
    obtain ⟨k, hk⟩ := Nat.exists_eq_succ_of_ne_zero (Nat.sub_ne_zero_of_lt hroom)
    rw [hcons, hk]
    exact List.mem_cons_self
  obtain ⟨d, r', hr'⟩ := List.exists_cons_of_ne_nil hne
  have hprefix := stem_isPrefixOf base n
  rw [hcons, hr', List.cons_prefix_cons] at hprefix
  exact ⟨d, r', hr', hprefix.1 ▸ hc⟩

theorem length_numbered_le (hroom : (numberEnding n).length ≤ maxLength) :
    (numbered base n).toList.length ≤ maxLength := by
  have hle : (stem base n).length ≤ maxLength - (numberEnding n).length :=
    ((Text.cutEnd_isPrefixOf _ _).length_le).trans (List.length_take_le _ _)
  rw [toList_numbered, List.length_append]
  omega

/-- **A numbered slug is a slug**, if its base is one and the number leaves room for it. -/
theorem valid_numbered (hbase : Valid base) (hroom : (numberEnding n).length < maxLength) :
    Valid (numbered base n) := by
  obtain ⟨-, hspelled, happart, -⟩ := valid_iff.mp hbase
  obtain ⟨-, hall⟩ := wellSpelled_iff.mp hspelled
  obtain ⟨c, r, hcons, hc⟩ := exists_stem_eq_cons hbase hroom
  have hlength : (numbered base n).toList.length ≤ maxLength := length_numbered_le hroom.le
  rw [toList_numbered] at hlength
  rw [valid_iff, toList_numbered]
  have hfirst : stem base n ++ numberEnding n = c :: (r ++ numberEnding n) := by
    rw [hcons, List.cons_append]
  refine ⟨hlength, wellSpelled_iff.mpr ⟨⟨c, _, hfirst, hc⟩, ?_⟩, ?_, ?_⟩
  · intro d hd
    rcases List.mem_append.mp hd with hd | hd
    · exact hall d ((stem_isPrefixOf base n).subset hd)
    · rcases List.mem_cons.mp hd with rfl | hd
      · exact .inr rfl
      · exact .inl (isAlphanum_of_isDigit (isDigit_of_mem_toString hd))
  · -- The stem keeps its separators apart and ends in none, and there is none among the digits.
    rw [hasDoubledSeparator_eq_false_iff, List.isChain_append]
    have hstem := List.IsChain.prefix (hasDoubledSeparator_eq_false_iff.mp happart)
      (stem_isPrefixOf base n)
    refine ⟨hstem, ?_, ?_⟩
    · refine List.isChain_cons.mpr ⟨fun d hd => ?_, ?_⟩
      · have hdigit := isDigit_of_mem_toString (List.mem_of_mem_head? hd)
        simp [isSeparator_of_isAlphanum (isAlphanum_of_isDigit hdigit)]
      · refine (List.pairwise_of_forall_mem_list fun d hd e _ => ?_).isChain
        simp [isSeparator_of_isAlphanum (isAlphanum_of_isDigit (isDigit_of_mem_toString hd))]
    · intro d hd e _
      simp [Text.getLast?_cutEnd hd]
  · refine Bool.eq_false_iff.mpr fun hending => ?_
    have hlast : (stem base n ++ numberEnding n).getLast? = (toString n).toList.getLast? := by
      rw [numberEnding, ← List.singleton_append, ← List.append_assoc]
      exact List.getLast?_append_of_ne_nil _ toString_toList_ne_nil
    rcases getLast?_of_hasReservedEnding hending with h | h
    · exact absurd (isDigit_of_mem_toString (List.mem_of_getLast? (hlast.symm.trans h))) (by decide)
    · exact absurd (isDigit_of_mem_toString (List.mem_of_getLast? (hlast.symm.trans h))) (by decide)

/-- The number of a numbered slug stands behind its last hyphen. -/
theorem takeWhile_numbered (base : String) (n : Nat) :
    (numbered base n).toList.reverse.takeWhile Char.isDigit = (toString n).toList.reverse := by
  rw [toList_numbered, numberEnding, List.reverse_append, List.reverse_cons, List.append_assoc,
    List.takeWhile_append_of_pos fun c hc => isDigit_of_mem_toString (List.mem_reverse.mp hc)]
  simp

/-- **Numbered slugs tell their numbers.** -/
theorem numbered_inj {m n : Nat} (h : numbered base m = numbered base n) : m = n := by
  have hdigits : (toString m).toList.reverse = (toString n).toList.reverse := by
    rw [← takeWhile_numbered base, ← takeWhile_numbered base, h]
  have hsame : Nat.toDigits 10 m = Nat.toDigits 10 n := by
    simpa [Nat.toString_eq_ofList_toDigits] using hdigits
  rw [← Nat.ofDigitChars_ten_toDigits (n := m), hsame, Nat.ofDigitChars_ten_toDigits]

end Slug

end Roster
