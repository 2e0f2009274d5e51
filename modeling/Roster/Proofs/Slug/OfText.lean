/-
# The slug of a text

A slug is made of a text in two stages.  The first gives an `opening`: lower-case letters,
digits and separators, no two separators side by side, and no separator in front.  The
second takes separators and reserved endings off the end, round by round, until there are
none.  The rounds are written down as a relation (`Settles`), since that they come to an
end, and where, is one of the things to be shown (`settles_iff`).

The first character of the opening decides everything.  It is a letter or a digit, no
round takes it off (`Settles.head?_eq`), and so what is left is a slug.  There is no such
character exactly if the text in lower case has neither letter nor digit
(`opening_eq_nil_iff`).

A slug that is taken for a text again is left alone, because every stage leaves alone what
obeys the rule already (`opening_eq_self`, `settle_eq_self`).
-/
import Mathlib
import Roster.Proofs.Slug

namespace Roster

/-! ## Lower case -/

namespace Text

variable {c d : Char} {cs : List Char}

/-- A text without white space is left alone by trimming. -/
theorem trimChars_eq_self (h : ∀ c ∈ cs, isBlank c = false) : trimChars cs = cs := by
  have hdrop : cs.dropWhile isBlank = cs := by
    rw [List.dropWhile_eq_self_iff]
    intro hpos
    rw [h _ (List.getElem_mem hpos)]
    exact Bool.false_ne_true
  rw [trimChars, hdrop]
  exact cutEnd_eq_self fun c hc => h c (List.mem_of_getLast? hc)

theorem isUpper_iff : c.isUpper ↔ 65 ≤ c.toNat ∧ c.toNat ≤ 90 := by
  simp only [Char.isUpper, ge_iff_le, decide_eq_true_eq, UInt32.le_iff_toNat_le]
  exact Iff.rfl

theorem toNat_ofNat_cases (n : Nat) : (Char.ofNat n).toNat = n ∨ (Char.ofNat n).toNat = 0 := by
  unfold Char.ofNat
  split
  · exact .inl rfl
  · exact .inr rfl

/-- Outside of ASCII, no run of the table leads to a capital letter of ASCII or below. -/
theorem caseRuns_pass_capitals :
    ∀ r ∈ caseRuns, r.last < 0x80 ∨ 90 < (r.first : Int) + r.shift := by
  decide +kernel

/-- **Lower case holds no capital letter** of ASCII. -/
theorem isUpper_of_mem_lowerChar (h : d ∈ lowerChar c) : d.isUpper = false := by
  unfold lowerChar at h
  split at h
  · rw [List.mem_singleton.mp h]
    exact Char.isUpper_toLower_eq_false c
  · next hascii =>
      split at h
      · rcases List.mem_pair.mp h with rfl | rfl <;> decide
      · split at h
        · next r hr =>
            have hholds := List.find?_some hr
            have hrun := caseRuns_pass_capitals r (List.mem_of_find?_eq_some hr)
            simp only [CaseRun.holds, Bool.and_eq_true, decide_eq_true_eq] at hholds
            rw [List.mem_singleton.mp h, Bool.eq_false_iff, ne_eq, isUpper_iff]
            rcases toNat_ofNat_cases (c.toNat + r.shift).toNat with h | h <;> omega
        · rw [List.mem_singleton.mp h, Bool.eq_false_iff, ne_eq, isUpper_iff]
          omega

theorem isUpper_of_mem_lowerChars (h : d ∈ lowerChars cs) : d.isUpper = false := by
  obtain ⟨c, -, hd⟩ := List.mem_flatMap.mp h
  exact isUpper_of_mem_lowerChar hd

/-- ASCII without capital letters is in lower case. -/
theorem lowerChars_eq_self (hascii : ∀ c ∈ cs, c.toNat < 0x80)
    (hlower : ∀ c ∈ cs, c.isUpper = false) : lowerChars cs = cs := by
  induction cs with
  | nil => rfl
  | cons c cs ih =>
      have hc : lowerChar c = [c] := by
        rw [lowerChar, if_pos (hascii c List.mem_cons_self),
          Char.toLower_eq_of_not_isUpper (Bool.eq_false_iff.mp (hlower c List.mem_cons_self))]
      have hrest : lowerChars cs = cs :=
        ih (fun d hd => hascii d (List.mem_cons_of_mem c hd))
          fun d hd => hlower d (List.mem_cons_of_mem c hd)
      exact congr_arg₂ List.append hc hrest

end Text

namespace Slug

open Roster.Field (maxLength)

variable {c d : Char} {cs out : List Char} {s : String}

/-! ## The characters of slugs -/

theorem isSeparator_iff : isSeparator c ↔ c = '-' ∨ c = '_' ∨ c = '.' := by
  simp [isSeparator, or_assoc]

theorem IsSpelling.ascii (h : IsSpelling c) : c.toNat < 0x80 := by
  rcases h with h | h
  · simp only [Char.isAlphanum, Char.isAlpha, Char.isUpper, Char.isLower, Char.isDigit,
      Bool.or_eq_true, Bool.and_eq_true, decide_eq_true_eq, UInt32.le_iff_toNat_le, ge_iff_le] at h
    change ((65 ≤ c.toNat ∧ c.toNat ≤ 90) ∨ (97 ≤ c.toNat ∧ c.toNat ≤ 122)) ∨
      (48 ≤ c.toNat ∧ c.toNat ≤ 57) at h
    omega
  · rcases isSeparator_iff.mp h with rfl | rfl | rfl <;> decide

theorem IsSpelling.isBlank_eq_false (h : IsSpelling c) : Text.isBlank c = false := by
  have hblank : Text.blanks.all fun b => !(b.isAlphanum || isSeparator b) := by decide
  rw [Bool.eq_false_iff]
  intro hc
  have hnot := List.all_eq_true.mp hblank c (List.contains_iff_mem.mp hc)
  rw [Bool.not_eq_true', Bool.or_eq_false_iff] at hnot
  rcases h with halnum | hsep
  · rw [halnum] at hnot
    cases hnot.1
  · rw [hsep] at hnot
    cases hnot.2

theorem isUpper_of_isKept (h : isKept c) : c.isUpper = false := by
  rw [Bool.eq_false_iff, ne_eq, Text.isUpper_iff]
  simp only [isKept, Char.isLower, Char.isDigit, Bool.or_eq_true, Bool.and_eq_true,
    decide_eq_true_eq, UInt32.le_iff_toNat_le, ge_iff_le] at h
  rcases h with (h | h) | h
  · change 97 ≤ c.toNat ∧ c.toNat ≤ 122 at h
    omega
  · change 48 ≤ c.toNat ∧ c.toNat ≤ 57 at h
    omega
  · rcases isSeparator_iff.mp h with rfl | rfl | rfl <;> decide

/-- What a made slug keeps is what slugs are spelled with, but for capital letters. -/
theorem isKept_iff : isKept c ↔ IsSpelling c ∧ c.isUpper = false := by
  constructor
  · intro h
    refine ⟨?_, isUpper_of_isKept h⟩
    simp only [isKept, Bool.or_eq_true] at h
    rcases h with (h | h) | h
    · exact .inl (by simp [Char.isAlphanum, Char.isAlpha, h])
    · exact .inl (isAlphanum_of_isDigit h)
    · exact .inr h
  · rintro ⟨h, hlower⟩
    simpa [isKept, IsSpelling, Char.isAlphanum, Char.isAlpha, hlower] using h

theorem isAlphanum_of_isKept (h : isKept c) (hc : isSeparator c = false) : c.isAlphanum := by
  rcases (isKept_iff.mp h).1 with halnum | hsep
  · exact halnum
  · rw [hc] at hsep
    cases hsep

/-! ## Runs of separators -/

/-- No two separators stand side by side. -/
abbrev SeparatorsApart (cs : List Char) : Prop :=
  cs.IsChain fun c d => ¬ (isSeparator c ∧ isSeparator d)

theorem mem_joinChar (h : d ∈ joinChar c cs) : d = '-' ∨ d = c ∨ d ∈ cs := by
  cases cs with
  | nil => exact .inr (.inl (List.mem_singleton.mp h))
  | cons e r =>
      rw [joinChar] at h
      split at h
      · rcases List.mem_cons.mp h with rfl | h
        · exact .inl rfl
        · exact .inr (.inr (List.mem_cons_of_mem e h))
      · rcases List.mem_cons.mp h with rfl | h
        · exact .inr (.inl rfl)
        · exact .inr (.inr h)

/-- Nothing but separators melts. -/
theorem mem_joinChar_of (hd : isSeparator d = false) (h : d = c ∨ d ∈ cs) : d ∈ joinChar c cs := by
  cases cs with
  | nil => simpa [joinChar] using h
  | cons e r =>
      rw [joinChar]
      split
      · next hmelt =>
          simp only [Bool.and_eq_true] at hmelt
          rcases h with rfl | h
          · rw [hd] at hmelt
            cases hmelt.1
          · rcases List.mem_cons.mp h with rfl | h
            · rw [hd] at hmelt
              cases hmelt.2
            · exact List.mem_cons_of_mem _ h
      · exact List.mem_cons.mpr h

theorem apart_joinChar (c : Char) (h : SeparatorsApart cs) : SeparatorsApart (joinChar c cs) := by
  cases cs with
  | nil => exact .singleton c
  | cons d r =>
      rw [joinChar]
      split
      · next hmelt =>
          -- The hyphen stands where a separator stood, and what follows was apart from that one.
          obtain ⟨hnext, hr⟩ := List.isChain_cons.mp h
          simp only [Bool.and_eq_true] at hmelt
          exact List.isChain_cons.mpr ⟨fun e he hsep => hnext e he ⟨hmelt.2, hsep.2⟩, hr⟩
      · next hkeep => exact List.isChain_cons_cons.mpr ⟨by simpa using hkeep, h⟩

theorem apart_collapse (cs : List Char) : SeparatorsApart (collapse cs) := by
  induction cs with
  | nil => exact .nil
  | cons c cs ih => exact apart_joinChar c ih

theorem mem_collapse (h : d ∈ collapse cs) : d = '-' ∨ d ∈ cs := by
  induction cs with
  | nil => exact .inr h
  | cons c cs ih =>
      rcases mem_joinChar h with h | rfl | h
      · exact .inl h
      · exact .inr List.mem_cons_self
      · exact (ih h).imp_right (List.mem_cons_of_mem c)

theorem mem_collapse_of (hd : isSeparator d = false) (h : d ∈ cs) : d ∈ collapse cs := by
  induction cs with
  | nil => cases h
  | cons c cs ih => exact mem_joinChar_of hd ((List.mem_cons.mp h).imp_right ih)

theorem collapse_eq_self (h : SeparatorsApart cs) : collapse cs = cs := by
  induction cs with
  | nil => rfl
  | cons c cs ih =>
      obtain ⟨hnext, hcs⟩ := List.isChain_cons.mp h
      show joinChar c (collapse cs) = _
      rw [ih hcs]
      cases cs with
      | nil => rfl
      | cons d r => exact if_neg (by simpa using hnext d rfl)

/-! ## The opening -/

/-- A character as it is kept in a made slug. -/
def kept (c : Char) : Char := if isKept c then c else '-'

/-- The text as its end is still to be settled. -/
def opening (cs : List Char) : List Char :=
  ((collapse ((Text.lowerChars (Text.trimChars cs)).map kept)).dropWhile isSeparator).take maxLength

theorem draft_eq (cs : List Char) : draft cs = settle (opening cs) := rfl

theorem isKept_kept (c : Char) : isKept (kept c) := by
  unfold kept
  split
  · assumption
  · rfl

theorem isKept_of_mem_collapse (h : d ∈ collapse (cs.map kept)) : isKept d := by
  rcases mem_collapse h with rfl | h
  · rfl
  · obtain ⟨c, -, rfl⟩ := List.mem_map.mp h
    exact isKept_kept c

theorem opening_sublist (cs : List Char) :
    (opening cs).Sublist (collapse ((Text.lowerChars (Text.trimChars cs)).map kept)) :=
  (List.take_sublist _ _).trans (List.dropWhile_sublist _)

theorem isKept_of_mem_opening (h : d ∈ opening cs) : isKept d :=
  isKept_of_mem_collapse ((opening_sublist cs).subset h)

theorem apart_opening (cs : List Char) : SeparatorsApart (opening cs) :=
  List.IsChain.prefix ((apart_collapse _).suffix (List.dropWhile_suffix _)) (List.take_prefix _ _)

theorem length_opening_le (cs : List Char) : (opening cs).length ≤ maxLength :=
  List.length_take_le _ _

theorem isSeparator_of_head?_opening (h : (opening cs).head? = some c) : isSeparator c = false := by
  have hdropped := List.head?_dropWhile_not isSeparator
    (collapse ((Text.lowerChars (Text.trimChars cs)).map kept))
  rw [opening, List.head?_take, if_neg (by decide)] at h
  rw [h] at hdropped
  exact hdropped

/-- **The opening is empty exactly if the text in lower case has neither letter nor digit.** -/
theorem opening_eq_nil_iff : opening cs = [] ↔
    ∀ c ∈ Text.lowerChars (Text.trimChars cs), c.isAlphanum = false := by
  have hmax : maxLength ≠ 0 := by decide
  rw [opening, List.take_eq_nil_iff, or_iff_right hmax, List.dropWhile_eq_nil_iff]
  constructor
  · intro hall c hc
    rw [Bool.eq_false_iff]
    intro halnum
    have hsep : isSeparator c = false := isSeparator_of_isAlphanum halnum
    have hkept : kept c = c :=
      if_pos (isKept_iff.mpr ⟨.inl halnum, Text.isUpper_of_mem_lowerChars hc⟩)
    have hmem : c ∈ (Text.lowerChars (Text.trimChars cs)).map kept :=
      List.mem_map.mpr ⟨c, hc, hkept⟩
    have hthere := hall c (mem_collapse_of hsep hmem)
    rw [hsep] at hthere
    cases hthere
  · intro hall d hd
    rcases mem_collapse hd with rfl | hd
    · rfl
    · obtain ⟨c, hc, rfl⟩ := List.mem_map.mp hd
      unfold kept
      split
      · next hkept =>
          rcases (isKept_iff.mp hkept).1 with halnum | hsep
          · rw [hall c hc] at halnum
            cases halnum
          · exact hsep
      · rfl

/-! ## The end is settled round by round -/

/-- In each round the separators at the end are taken off, and then a reserved ending; the rounds
are over when there is none. -/
inductive Settles : List Char → List Char → Prop
  | ended {cs : List Char} (h : hasReservedEnding (Text.cutEnd isSeparator cs) = false) :
      Settles cs (Text.cutEnd isSeparator cs)
  | round {cs stem ending out : List Char} (hending : ending ∈ reservedEndings)
      (h : Text.cutEnd isSeparator cs = stem ++ ending) (hstem : Settles stem out) : Settles cs out

theorem hasReservedEnding_iff : hasReservedEnding cs ↔
    ∃ ending ∈ reservedEndings, ∃ stem, cs = stem ++ ending := by
  simp only [hasReservedEnding, List.any_eq_true, List.isSuffixOf_iff_suffix]
  constructor
  · rintro ⟨ending, hending, stem, hstem⟩
    exact ⟨ending, hending, stem, hstem.symm⟩
  · rintro ⟨ending, hending, stem, hstem⟩
    exact ⟨ending, hending, stem, hstem.symm⟩

theorem settleReversed_dropWhile (cs : List Char) :
    settleReversed (cs.dropWhile isSeparator) = settleReversed cs := by
  induction cs with
  | nil => rfl
  | cons c cs ih =>
      cases hc : isSeparator c with
      | false => rw [List.dropWhile_cons_of_neg (by simp [hc])]
      | true =>
          rw [List.dropWhile_cons_of_pos hc, ih]
          rcases isSeparator_iff.mp hc with rfl | rfl | rfl <;> simp [settleReversed, isSeparator]

theorem settle_cutEnd (cs : List Char) : settle (Text.cutEnd isSeparator cs) = settle cs := by
  rw [settle, Text.cutEnd, List.reverse_reverse, settleReversed_dropWhile, settle]

theorem settle_append_ending {stem ending : List Char} (h : ending ∈ reservedEndings) :
    settle (stem ++ ending) = settle stem := by
  simp only [reservedEndings, List.mem_cons, List.not_mem_nil, or_false] at h
  rcases h with rfl | rfl <;> simp [settle, settleReversed]

/-- What neither ends in a separator nor has a reserved ending is settled. -/
theorem settle_eq_self (hlast : ∀ c, cs.getLast? = some c → isSeparator c = false)
    (hending : hasReservedEnding cs = false) : settle cs = cs := by
  have hbare : ∀ ending ∈ reservedEndings, ∀ stem, cs.reverse ≠ ending.reverse ++ stem := by
    intro ending hmem stem heq
    have hcs : cs = stem.reverse ++ ending := by
      simpa using congrArg List.reverse heq
    exact Bool.eq_false_iff.mp hending (hasReservedEnding_iff.mpr ⟨ending, hmem, _, hcs⟩)
  have hreversed : settleReversed cs.reverse = cs.reverse := by
    rw [← List.head?_reverse] at hlast
    unfold settleReversed
    split
    · next r h => exact absurd h (hbare ".git".toList (by simp [reservedEndings]) r)
    · next r h => exact absurd h (hbare ".atom".toList (by simp [reservedEndings]) r)
    · next c r _ _ h =>
        rw [h] at hlast
        rw [hlast c rfl, h]
        exact if_neg Bool.false_ne_true
    · next h => exact h.symm
  rw [settle, hreversed, List.reverse_reverse]

/-- **The rounds come to an end**, and what is left then is the settled text. -/
theorem settles_iff : Settles cs out ↔ out = settle cs := by
  constructor
  · intro h
    induction h with
    | @ended cs h =>
        rw [← settle_cutEnd cs, settle_eq_self (fun c hc => Text.getLast?_cutEnd hc) h]
    | @round cs stem ending out hending h _ ih =>
        rw [ih, ← settle_cutEnd cs, h, settle_append_ending hending]
  · rintro rfl
    -- Each round leaves fewer characters for the next one.
    induction hn : cs.length using Nat.strongRecOn generalizing cs with
    | ind n ih =>
        cases hending : hasReservedEnding (Text.cutEnd isSeparator cs) with
        | false =>
            have hended := Settles.ended hending
            rwa [← settle_eq_self (fun c hc => Text.getLast?_cutEnd hc) hending, settle_cutEnd]
              at hended
        | true =>
            obtain ⟨ending, hmem, stem, hstem⟩ := hasReservedEnding_iff.mp hending
            have hshorter : stem.length < n := by
              have hle := (Text.cutEnd_isPrefixOf isSeparator cs).length_le
              have hpos : ∀ ending ∈ reservedEndings, 0 < ending.length := by decide
              have hending := hpos ending hmem
              rw [hstem, List.length_append] at hle
              omega
            have hsettle : settle cs = settle stem := by
              rw [← settle_cutEnd, hstem, settle_append_ending hmem]
            rw [hsettle]
            exact .round hmem hstem (ih stem.length hshorter rfl)

/-! ## What is left in the end -/

theorem Settles.isPrefixOf (h : Settles cs out) : out <+: cs := by
  induction h with
  | ended => exact Text.cutEnd_isPrefixOf isSeparator _
  | @round cs stem ending out hending h _ ih =>
      refine (ih.trans ?_).trans (Text.cutEnd_isPrefixOf isSeparator cs)
      exact h ▸ List.prefix_append stem ending

theorem Settles.getLast?_eq (h : Settles cs out) (hc : out.getLast? = some c) :
    isSeparator c = false := by
  induction h with
  | ended => exact Text.getLast?_cutEnd hc
  | round _ _ _ ih => exact ih hc

theorem Settles.hasReservedEnding_eq (h : Settles cs out) : hasReservedEnding out = false := by
  induction h with
  | ended h => exact h
  | round _ _ _ ih => exact ih

/-- A first character that is no separator stays, since the endings begin with one. -/
theorem Settles.head?_eq (h : Settles cs out) (hhead : cs.head? = some c)
    (hc : isSeparator c = false) : out.head? = some c := by
  have hcut : ∀ {cs : List Char}, cs.head? = some c →
      (Text.cutEnd isSeparator cs).head? = some c := by
    intro cs hhead
    obtain ⟨r, rfl⟩ := List.head?_eq_some_iff.mp hhead
    obtain ⟨d, r', hcut⟩ := List.exists_cons_of_ne_nil
      (Text.cutEnd_ne_nil (p := isSeparator) (List.mem_cons_self (l := r)) hc)
    have hprefix := Text.cutEnd_isPrefixOf isSeparator (c :: r)
    rw [hcut, List.cons_prefix_cons] at hprefix
    rw [hcut, hprefix.1, List.head?_cons]
  induction h with
  | ended => exact hcut hhead
  | @round cs stem ending out hending h _ ih =>
      refine ih ?_
      have hfirst := hcut hhead
      rw [h] at hfirst
      cases stem with
      | cons d stem => exact hfirst
      | nil =>
          have hdot : ∀ ending ∈ reservedEndings, ending.head? = some '.' := by decide
          rw [List.nil_append, hdot ending hending] at hfirst
          cases hfirst
          cases hc

theorem settles_draft (cs : List Char) : Settles (opening cs) (draft cs) := settles_iff.mpr rfl

theorem isKept_of_mem_draft (h : c ∈ draft cs) : isKept c :=
  isKept_of_mem_opening ((settles_draft cs).isPrefixOf.subset h)

/-- **What an opening is settled to is a slug**, if there is an opening. -/
theorem valid_draft (h : opening cs ≠ []) : Valid (String.ofList (draft cs)) := by
  have hsettles := settles_draft cs
  obtain ⟨c, r, hopening⟩ := List.exists_cons_of_ne_nil h
  have hhead : (opening cs).head? = some c := by rw [hopening, List.head?_cons]
  have hsep : isSeparator c = false := isSeparator_of_head?_opening hhead
  have halnum : c.isAlphanum :=
    isAlphanum_of_isKept (isKept_of_mem_opening (List.mem_of_head? hhead)) hsep
  obtain ⟨r', hdraft⟩ := List.head?_eq_some_iff.mp (hsettles.head?_eq hhead hsep)
  rw [valid_iff, String.toList_ofList]
  have hspelled : wellSpelled (draft cs) := wellSpelled_iff.mpr
    ⟨⟨c, r', hdraft, halnum⟩, fun d hd => (isKept_iff.mp (isKept_of_mem_draft hd)).1⟩
  have happart : SeparatorsApart (draft cs) :=
    List.IsChain.prefix (apart_opening cs) hsettles.isPrefixOf
  exact ⟨hsettles.isPrefixOf.length_le.trans (length_opening_le cs), hspelled,
    hasDoubledSeparator_eq_false_iff.mpr happart, hsettles.hasReservedEnding_eq⟩

/-- A text gives a slug if it has an opening. -/
theorem ofText?_eq_some_iff {text : String} :
    ofText? text = some s ↔ opening text.toList ≠ [] ∧ s.toList = draft text.toList := by
  constructor
  · intro h
    have hs : s.toList = draft text.toList := by
      simp only [ofText?] at h
      split at h
      · rw [← Option.some.inj h, String.toList_ofList]
      · cases h
    refine ⟨fun hnil => ?_, hs⟩
    -- Of nothing nothing is left, and that is no slug.
    have hvalid : Valid s := valid_of_ofText? h
    rw [Valid, hs, draft_eq, hnil] at hvalid
    cases hvalid
  · rintro ⟨hne, hs⟩
    have hvalid := valid_draft hne
    rw [Valid, String.toList_ofList] at hvalid
    rw [ofText?, if_pos hvalid, ← hs, String.ofList_toList]

/-- **A slug in lower case is its own opening**: each stage finds nothing to do. -/
theorem opening_eq_self (hvalid : Valid s) (hlower : ∀ c ∈ s.toList, c.isUpper = false) :
    opening s.toList = s.toList := by
  obtain ⟨hlength, hspelled, happart, -⟩ := valid_iff.mp hvalid
  obtain ⟨⟨c, r, hcons, halnum⟩, hspelling⟩ := wellSpelled_iff.mp hspelled
  have htrim : Text.trimChars s.toList = s.toList :=
    Text.trimChars_eq_self fun c hc => (hspelling c hc).isBlank_eq_false
  have hlowered : Text.lowerChars s.toList = s.toList :=
    Text.lowerChars_eq_self (fun c hc => (hspelling c hc).ascii) hlower
  have hkept : s.toList.map kept = s.toList.map id :=
    List.map_congr_left fun c hc => if_pos (isKept_iff.mpr ⟨hspelling c hc, hlower c hc⟩)
  have hcollapse : collapse s.toList = s.toList :=
    collapse_eq_self (hasDoubledSeparator_eq_false_iff.mp happart)
  have hdrop : s.toList.dropWhile isSeparator = s.toList := by
    rw [hcons, List.dropWhile_cons_of_neg (by simp [isSeparator_of_isAlphanum halnum])]
  rw [opening, htrim, hlowered, hkept, List.map_id, hcollapse, hdrop, List.take_of_length_le hlength]

/-! ## Which texts give slugs, and which slugs -/

/-- A slug made of a text is in lower case and does not end in a separator. -/
theorem made_of_ofText? {text : String} (h : ofText? text = some s) :
    Valid s ∧ (∀ c ∈ s.toList, c.isUpper = false) ∧
      ∀ c, s.toList.getLast? = some c → isSeparator c = false := by
  obtain ⟨-, hs⟩ := ofText?_eq_some_iff.mp h
  refine ⟨valid_of_ofText? h, fun c hc => ?_, fun c hc => ?_⟩
  · exact (isKept_iff.mp (isKept_of_mem_draft (hs ▸ hc))).2
  · exact (settles_draft text.toList).getLast?_eq (hs ▸ hc)

/-- Taken for a text, a slug in lower case that does not end in a separator is left alone. -/
theorem ofText?_eq_self (hvalid : Valid s) (hlower : ∀ c ∈ s.toList, c.isUpper = false)
    (hlast : ∀ c, s.toList.getLast? = some c → isSeparator c = false) : ofText? s = some s := by
  obtain ⟨-, hspelled, -, hending⟩ := valid_iff.mp hvalid
  have hopening : opening s.toList = s.toList := opening_eq_self hvalid hlower
  refine ofText?_eq_some_iff.mpr ⟨?_, ?_⟩
  · rw [hopening]
    intro hnil
    rw [hnil] at hspelled
    cases hspelled
  · rw [draft_eq, hopening, settle_eq_self hlast hending]

/-- **A text gives a slug unless it has neither letter nor digit in lower case.**  The rounds in
which its end is settled come to an end; what comes out is a slug in lower case, and its last
character is no separator. -/
theorem texts_with_letter_or_digit_give_slugs (text : String) :
    (∃ cs, Settles (opening text.toList) cs ∧
      (∀ out, Settles (opening text.toList) out → out = cs) ∧
      ∀ s, ofText? text = some s → s.toList = cs) ∧
    (∀ s, ofText? text = some s → Valid s ∧ (∀ c ∈ s.toList, c.isUpper = false) ∧
      ∀ c, s.toList.getLast? = some c → isSeparator c = false) ∧
    (ofText? text = none ↔
      ∀ c ∈ Text.lowerChars (Text.trimChars text.toList), c.isAlphanum = false) := by
  refine ⟨⟨draft text.toList, settles_draft _, fun out h => settles_iff.mp h, fun s h => ?_⟩,
    fun s h => made_of_ofText? h, ?_⟩
  · exact (ofText?_eq_some_iff.mp h).2
  · rw [← opening_eq_nil_iff, Option.eq_none_iff_forall_ne_some]
    constructor
    · intro hnone
      by_contra hne
      exact hnone _ (ofText?_eq_some_iff.mpr ⟨hne, String.toList_ofList⟩)
    · intro hnil s hs
      exact (ofText?_eq_some_iff.mp hs).1 hnil

/-- A sign that is no letter of ASCII becomes one, and behind it two rounds take an ending off. -/
example : ofText? "\u212a.git.atom_" = some "k" := by decide +kernel

/-- **The slugs that texts give are those that are left alone**: in lower case, and without a
separator at the end. -/
theorem made_slugs_are_left_alone (s : String) :
    (∀ text, ofText? text = some s → ofText? s = some s) ∧
    (ofText? s = some s ↔ Valid s ∧ (∀ c ∈ s.toList, c.isUpper = false) ∧
      ∀ c, s.toList.getLast? = some c → isSeparator c = false) := by
  refine ⟨fun text h => ?_, fun h => made_of_ofText? h, ?_⟩
  · obtain ⟨hvalid, hlower, hlast⟩ := made_of_ofText? h
    exact ofText?_eq_self hvalid hlower hlast
  · rintro ⟨hvalid, hlower, hlast⟩
    exact ofText?_eq_self hvalid hlower hlast

end Slug

end Roster
