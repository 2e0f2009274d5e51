/-
# Slugs are runs joined by separators

The rule of slugs looks at single characters and at neighbours.  A slug read as a whole is
made of runs of letters and digits, with one separator between each two of them and perhaps
one more at the very end (`InRuns`).  The two readings come to the same, next to the bounds
on length and ending that both have (`valid_iff_inRuns`).

From the rule to the runs the text is taken apart from its start, one or two characters at
a time: a letter or digit lengthens the run behind it (`InRuns.cons`), unless a separator
follows, and then the character is a run of its own.
-/
import Mathlib.Data.List.Induction
import Roster.Proofs.Slug.OfText

namespace Roster.Slug

variable {c : Char} {cs run rest : List Char} {s : String}

/-! ## Runs -/

/-- One or more ASCII letters and digits. -/
def IsRun (cs : List Char) : Prop := cs ≠ [] ∧ ∀ c ∈ cs, c.isAlphanum

/-- Runs with a single separator between each two of them.  One more separator may stand behind
the last run. -/
inductive InRuns : List Char → Prop
  | single {run : List Char} (h : IsRun run) : InRuns run
  | closed {run : List Char} {c : Char} (h : IsRun run) (hc : isSeparator c) : InRuns (run ++ [c])
  | joined {run rest : List Char} {c : Char} (h : IsRun run) (hc : isSeparator c)
      (hrest : InRuns rest) : InRuns (run ++ c :: rest)

theorem isRun_singleton (hc : c.isAlphanum) : IsRun [c] :=
  ⟨List.cons_ne_nil c [], List.forall_mem_singleton.mpr hc⟩

theorem IsRun.cons (hc : c.isAlphanum) (h : IsRun run) : IsRun (c :: run) :=
  ⟨List.cons_ne_nil c run, List.forall_mem_cons.mpr ⟨hc, h.2⟩⟩

theorem IsRun.exists_cons (h : IsRun run) : ∃ c r, run = c :: r ∧ c.isAlphanum := by
  obtain ⟨c, r, rfl⟩ := List.exists_cons_of_ne_nil h.1
  exact ⟨c, r, rfl, h.2 c List.mem_cons_self⟩

/-- Letters and digits in front bring no separators side by side. -/
theorem hasDoubledSeparator_append_of_isAlphanum (h : ∀ c ∈ run, c.isAlphanum) (cs : List Char) :
    hasDoubledSeparator (run ++ cs) = hasDoubledSeparator cs := by
  induction run with
  | nil => rfl
  | cons c r ih =>
      obtain ⟨hc, hr⟩ := List.forall_mem_cons.mp h
      rw [List.cons_append, ← ih hr]
      cases r ++ cs with
      | nil => rfl
      | cons d t => simp [hasDoubledSeparator, isSeparator_of_isAlphanum hc]

/-! ## From the runs to the rule -/

theorem InRuns.exists_cons (h : InRuns cs) : ∃ c r, cs = c :: r ∧ c.isAlphanum := by
  cases h with
  | single h => exact h.exists_cons
  | closed h | joined h =>
      obtain ⟨c, r, rfl, hc⟩ := h.exists_cons
      exact ⟨c, _, rfl, hc⟩

theorem InRuns.isSpelling (h : InRuns cs) : ∀ c ∈ cs, IsSpelling c := by
  induction h with
  | single h => exact fun c hc => .inl (h.2 c hc)
  | closed h hsep =>
      intro c hc
      rcases List.mem_append.mp hc with hc | hc
      · exact .inl (h.2 c hc)
      · exact .inr (List.mem_singleton.mp hc ▸ hsep)
  | joined h hsep _ ih =>
      intro c hc
      rcases List.mem_append.mp hc with hc | hc
      · exact .inl (h.2 c hc)
      · rcases List.mem_cons.mp hc with rfl | hc
        · exact .inr hsep
        · exact ih c hc

theorem InRuns.hasDoubledSeparator_eq (h : InRuns cs) : hasDoubledSeparator cs = false := by
  induction h with
  | @single run h =>
      rw [← List.append_nil run, hasDoubledSeparator_append_of_isAlphanum h.2]
      rfl
  | closed h => rw [hasDoubledSeparator_append_of_isAlphanum h.2, hasDoubledSeparator]
  | joined h _ hrest ih =>
      -- What stands behind the separator begins with a letter or digit.
      obtain ⟨d, r, rfl, hd⟩ := hrest.exists_cons
      rw [hasDoubledSeparator_append_of_isAlphanum h.2, hasDoubledSeparator, ih,
        isSeparator_of_isAlphanum hd, Bool.and_false, Bool.or_false]

/-! ## From the rule to the runs -/

theorem InRuns.cons (hc : c.isAlphanum) (h : InRuns cs) : InRuns (c :: cs) := by
  cases h with
  | single h => exact .single (h.cons hc)
  | closed h hsep => exact .closed (h.cons hc) hsep
  | joined h hsep hrest => exact .joined (h.cons hc) hsep hrest

theorem inRuns_of_wellSpelled (hspelled : wellSpelled cs)
    (happart : hasDoubledSeparator cs = false) : InRuns cs := by
  induction cs using List.twoStepInduction with
  | nil => cases hspelled
  | singleton c => exact .single (isRun_singleton (by simpa [wellSpelled] using hspelled))
  | cons_cons c d r ih ihtail =>
      obtain ⟨⟨_, _, heq, hc⟩, hall⟩ := wellSpelled_iff.mp hspelled
      cases heq
      obtain ⟨-, hdr⟩ := List.forall_mem_cons.mp hall
      obtain ⟨hcd, hapart'⟩ : (isSeparator c && isSeparator d) = false ∧
          hasDoubledSeparator (d :: r) = false := by
        simpa [hasDoubledSeparator] using happart
      rcases hdr d List.mem_cons_self with hd | hd
      · exact (ihtail d (wellSpelled_iff.mpr ⟨⟨d, r, rfl, hd⟩, hdr⟩) hapart').cons hc
      · -- The character is a run of its own, and the separator ends the text or joins the rest.
        cases r with
        | nil => exact .closed (isRun_singleton hc) hd
        | cons e r =>
            obtain ⟨-, her⟩ := List.forall_mem_cons.mp hdr
            obtain ⟨hde, hapart''⟩ : isSeparator e = false ∧
                hasDoubledSeparator (e :: r) = false := by
              simpa [hasDoubledSeparator, hd] using hapart'
            have he : e.isAlphanum := (her e List.mem_cons_self).resolve_right (by simp [hde])
            exact .joined (isRun_singleton hc) hd
              (ih (wellSpelled_iff.mpr ⟨⟨e, r, rfl, he⟩, her⟩) hapart'')

theorem inRuns_iff : InRuns cs ↔ wellSpelled cs ∧ hasDoubledSeparator cs = false :=
  ⟨fun h => ⟨wellSpelled_iff.mpr ⟨h.exists_cons, h.isSpelling⟩, h.hasDoubledSeparator_eq⟩,
    fun h => inRuns_of_wellSpelled h.1 h.2⟩

/-! ## The rule -/

theorem hasReservedEnding_eq_false_iff : hasReservedEnding cs = false ↔
    ¬ ".git".toList <:+ cs ∧ ¬ ".atom".toList <:+ cs := by
  simp only [hasReservedEnding, reservedEndings, List.any_cons, List.any_nil, Bool.or_false,
    Bool.or_eq_false_iff, ← List.isSuffixOf_iff_suffix, Bool.not_eq_true]

/-- **A slug consists of at most 99 characters, in runs joined by single separators**, and ends in
neither of two endings.  So no slug holds a character outside of ASCII or a line break, and each
separator has a letter or digit in front of it. -/
theorem valid_iff_inRuns (s : String) :
    (Valid s ↔ s.toList.length ≤ 99 ∧ InRuns s.toList ∧
      ¬ ".git".toList <:+ s.toList ∧ ¬ ".atom".toList <:+ s.toList) ∧
    (Valid s → (∀ c ∈ s.toList, c.toNat < 0x80 ∧ Text.isBlank c = false) ∧
      s ≠ "" ∧ (∀ c, s.toList.head? = some c → isSeparator c = false) ∧
      ∀ before c d after, s.toList = before ++ c :: d :: after →
        ¬ (isSeparator c ∧ isSeparator d)) := by
  constructor
  · rw [valid_iff, inRuns_iff, hasReservedEnding_eq_false_iff, and_assoc]
    rfl
  · intro h
    obtain ⟨-, hspelled, happart, -⟩ := valid_iff.mp h
    obtain ⟨⟨d, r, hcons, hd⟩, hspelling⟩ := wellSpelled_iff.mp hspelled
    refine ⟨?_, ?_, ?_, ?_⟩
    · intro c hc
      exact ⟨(hspelling c hc).ascii, (hspelling c hc).isBlank_eq_false⟩
    · rintro rfl
      cases hcons
    · intro c hc
      rw [hcons, List.head?_cons] at hc
      exact Option.some.inj hc ▸ isSeparator_of_isAlphanum hd
    · intro before c d after hs
      have hchain := hasDoubledSeparator_eq_false_iff.mp happart
      exact List.isChain_iff_forall_rel_of_append_cons_cons.mp hchain hs

/-- The last separator and capital letters are no defect, and `.gitx` is no reserved ending. -/
example : Valid "Lab_2.v1-" ∧ Valid "ok.gitx" ∧ ¬ Valid "lab\n" ∧ ¬ Valid "lab-.v1" := by
  decide +kernel

end Roster.Slug
