/-
# What a document server promises

A store on a document server relies on little: collections keyed by `_id`, the unique
indexes, lists in the order asked for, and transactions that happen as a whole or not at
all.  It does not rely on the order in which a collection keeps its documents, on the
document that is taken where several meet a filter, or on the state of a transaction in
which something was refused.  `Host.Lawful` says this much and no more, of any server
whose documents can be seen, so documents are kept as multisets here.

The server of the rehearsals is one of them (`Server.lawful_host`).
-/
import Mathlib.Data.Multiset.AddSub
import Mathlib.Data.Multiset.Filter
import Mathlib.Logic.Function.Basic
import Roster.Document.Server

namespace Roster.Document

/-! ## The order of documents -/

theorem Value.le_trans {u v w : Value} (huv : u.le v) (hvw : v.le w) : u.le w := by
  cases u with
  | null => rfl
  | int l =>
      cases v with
      | null => cases huv
      | int m =>
          cases w with
          | null => cases hvw
          | int n => exact decide_eq_true (Int.le_trans (of_decide_eq_true huv) (of_decide_eq_true hvw))
          | text t => rfl
      | text s =>
          cases w with
          | null => cases hvw
          | int n => cases hvw
          | text t => rfl
  | text r =>
      cases v with
      | null => cases huv
      | int m => cases huv
      | text s =>
          cases w with
          | null => cases hvw
          | int n => cases hvw
          | text t =>
              exact decide_eq_true (String.le_trans (of_decide_eq_true huv) (of_decide_eq_true hvw))

theorem Value.le_total (v w : Value) : v.le w ∨ w.le v := by
  cases v with
  | null => exact .inl rfl
  | int m =>
      cases w with
      | null => exact .inr rfl
      | int n => exact (Int.le_total m n).imp decide_eq_true decide_eq_true
      | text t => exact .inl rfl
  | text s =>
      cases w with
      | null => exact .inr rfl
      | int n => exact .inr rfl
      | text t => exact (String.le_total s t).imp decide_eq_true decide_eq_true

theorem Value.le_antisymm {v w : Value} (hvw : v.le w) (hwv : w.le v) : v = w := by
  cases v with
  | null =>
      cases w with
      | null => rfl
      | int n => cases hwv
      | text t => cases hwv
  | int m =>
      cases w with
      | null => cases hvw
      | int n =>
          exact congrArg Value.int (Int.le_antisymm (of_decide_eq_true hvw) (of_decide_eq_true hwv))
      | text t => cases hwv
  | text s =>
      cases w with
      | null => cases hvw
      | int n => cases hvw
      | text t =>
          exact congrArg Value.text
            (String.le_antisymm (of_decide_eq_true hvw) (of_decide_eq_true hwv))

theorem leBy_trans {names : List String} {d e f : Document} (hde : leBy names d e)
    (hef : leBy names e f) : leBy names d f := by
  induction names with
  | nil => rfl
  | cons name rest ih =>
      simp only [leBy] at hde hef ⊢
      by_cases hv : d.get name = e.get name
      · rw [if_pos hv] at hde
        rw [hv]
        split
        · next hw =>
            rw [if_pos hw] at hef
            exact ih hde hef
        · next hw =>
            rw [if_neg hw] at hef
            exact hef
      · rw [if_neg hv] at hde
        by_cases hw : e.get name = f.get name
        · rw [← hw, if_neg hv]
          exact hde
        · rw [if_neg hw] at hef
          have hne : d.get name ≠ f.get name := by
            intro heq
            rw [heq] at hde
            exact hw (Value.le_antisymm hef hde)
          rw [if_neg hne]
          exact Value.le_trans hde hef

theorem leBy_total (names : List String) (d e : Document) : leBy names d e ∨ leBy names e d := by
  induction names with
  | nil => exact .inl rfl
  | cons name rest ih =>
      simp only [leBy]
      by_cases hv : d.get name = e.get name
      · rw [if_pos hv, if_pos hv.symm]
        exact ih
      · rw [if_neg hv, if_neg (Ne.symm hv)]
        exact Value.le_total _ _

theorem pairwise_sortBy (names : List String) (ds : List Document) :
    (sortBy names ds).Pairwise fun d e => leBy names d e := by
  have htrans : ∀ d e f, leBy names d e = true → leBy names e f = true → leBy names d f = true :=
    fun _ _ _ => leBy_trans
  refine List.pairwise_mergeSort htrans (fun d e => ?_) ds
  rw [Bool.or_eq_true]
  exact leBy_total names d e

/-! ## What a command does -/

/-- The documents of each collection. -/
abbrev Holdings := Collection → Multiset Document

/-- The document cannot stand in the collection beside the others. -/
def Clashes (c : Collection) (d : Document) (others : Multiset Document) : Prop :=
  ∃ fields ∈ c.uniqueKeys, ∃ e ∈ others, sameIn fields d e

/-- A document is put beside the others, or refused because it clashes with one of them. -/
def Placed {ρ : Type} (c : Collection) (before : Holdings) (d : Document)
    (others : Multiset Document) (reply : ρ) (r : Except Refusal ρ) (after : Holdings) : Prop :=
  (Clashes c d others ∧ ∃ e, r = .error e ∧ e.isDuplicateKey) ∨
    (¬ Clashes c d others ∧ r = .ok reply ∧ after = Function.update before c (d ::ₘ others))

/-- The part of a list that was asked for. -/
def cut {α : Type} (skip limit : Option UInt64) (l : List α) : List α :=
  let rest := l.drop (skip.getD 0).toNat
  match limit with
  | some n => rest.take n.toNat
  | none => rest

/-- A command is answered, and the documents change, as they may. -/
def Carries : (q : Command) → Holdings → Except Refusal q.Reply → Holdings → Prop
  | .createIndexes .., before, r, after => r = .ok () ∧ after = before
  | .find c filter sort skip limit, before, r, after =>
      after = before ∧ ∃ found : List Document, ↑found = (before c).filter (meets filter ·) ∧
        (∀ names, sort = some names → found.Pairwise fun d e => leBy names d e) ∧
          r = .ok (cut skip limit found)
  | .count c filter, before, r, after =>
      after = before ∧ r = .ok ((before c).filter (meets filter ·)).card
  | .insert c d, before, r, after => Placed c before d (before c) () r after
  | .update c filter changes onInsert, before, r, after =>
      (∃ d ∈ before c, meets filter d ∧
        Placed c before (d.putAll changes) ((before c).erase d) 1 r after) ∨
      ((∀ d ∈ before c, ¬ meets filter d) ∧ match onInsert with
        | some more =>
            Placed c before (((ofFilter filter).putAll more).putAll changes) (before c) 0 r after
        | none => r = .ok 0 ∧ after = before)
  | .delete c filter, before, r, after =>
      r = .ok ((before c).filter (meets filter ·)).card ∧
        after = Function.update before c ((before c).filter fun d => ¬ meets filter d)

/-! ## Hosts -/

/-- A document server: how it answers, which documents the next request would find, and which ones
there were before the transaction, if one is open. -/
structure Host (σ : Type) where
  answer : (q : Request) → σ → q.Answer × σ
  holds : σ → Holdings
  saved : σ → Option Holdings

/-- What is promised of a document server. -/
structure Host.Lawful {σ : Type} (H : Host σ) : Prop where
  single : ∀ c w, H.saved w = none →
    Carries c (H.holds w) (H.answer (.single c) w).1 (H.holds (H.answer (.single c) w).2) ∧
      H.saved (H.answer (.single c) w).2 = none
  /-- A command within a transaction opens it if it is the first one. -/
  within : ∀ c w,
    Carries c (H.holds w) (H.answer (.within c) w).1 (H.holds (H.answer (.within c) w).2) ∧
      H.saved (H.answer (.within c) w).2 = some ((H.saved w).getD (H.holds w))
  commit : ∀ w, (H.saved w).isSome → (H.answer .commit w).1 = .ok () ∧
    H.holds (H.answer .commit w).2 = H.holds w ∧ H.saved (H.answer .commit w).2 = none
  abort : ∀ w, (H.saved w).isSome →
    some (H.holds (H.answer .abort w).2) = H.saved w ∧ H.saved (H.answer .abort w).2 = none

/-! ## The server of the rehearsals -/

namespace Contents

/-- The documents, in whatever order. -/
def holds (s : Contents) : Holdings := fun c => ↑(s.get c)

theorem holds_set (s : Contents) (c : Collection) (ds : List Document) :
    (s.set c ds).holds = Function.update s.holds c ↑ds := by
  funext c'
  by_cases hc : c' = c
  · subst hc
    rw [Function.update_self, holds, get_set_self]
  · rw [Function.update_of_ne hc, holds, get_set_of_ne s ds hc, holds]

theorem clashes_iff {c : Collection} {d : Document} {others : List Document} :
    clashes c d others ↔ Clashes c d ↑others := by
  simp only [clashes, Clashes, List.any_eq_true, Multiset.mem_coe]

theorem placed_set {ρ : Type} {s : Contents} {c : Collection} {d : Document}
    {others ds : List Document} {reply : ρ} (hds : ds.Perm (d :: others))
    (hfree : ¬ clashes c d others) :
    Placed c s.holds d ↑others reply (.ok reply) (s.set c ds).holds := by
  refine .inr ⟨fun h => hfree (clashes_iff.mpr h), rfl, ?_⟩
  rw [holds_set, Multiset.cons_coe]
  exact congrArg _ (Multiset.coe_eq_coe.mpr hds)

theorem placed_refused {ρ : Type} {s s' : Contents} {c : Collection} {d : Document}
    {others : List Document} {reply : ρ} (h : clashes c d others) :
    Placed c s.holds d ↑others reply (.error .duplicateKey) s'.holds :=
  .inl ⟨clashes_iff.mp h, _, rfl, rfl⟩

theorem placed_insert {ρ : Type} {s : Contents} {c : Collection} {d : Document} {reply : ρ} :
    match s.insert c d with
    | .ok s' => Placed c s.holds d (s.holds c) reply (.ok reply) s'.holds
    | .error e => Placed c s.holds d (s.holds c) reply (.error e) s.holds := by
  unfold insert
  by_cases h : clashes c d (s.get c)
  · rw [if_pos h]
    exact placed_refused h
  · rw [if_neg h]
    exact placed_set (List.perm_append_singleton d (s.get c)) h

theorem filter_holds (s : Contents) (c : Collection) (filter : Filter) :
    (s.holds c).filter (meets filter ·) = ↑((s.get c).filter (meets filter)) := by
  simp [holds]

theorem carries_carryOut (s : Contents) (q : Command) :
    Carries q s.holds (s.carryOut q).1 (s.carryOut q).2.holds := by
  cases q with
  | createIndexes c indexes => exact ⟨rfl, rfl⟩
  | find c filter sort skip limit =>
      refine ⟨rfl, ?_⟩
      rw [filter_holds]
      cases sort with
      | none => exact ⟨_, rfl, nofun, rfl⟩
      | some names =>
          refine ⟨sortBy names ((s.get c).filter (meets filter)), ?_, ?_, rfl⟩
          · exact Multiset.coe_eq_coe.mpr (List.mergeSort_perm _ _)
          · rintro _ ⟨⟩
            exact pairwise_sortBy names _
  | count c filter =>
      refine ⟨rfl, ?_⟩
      rw [filter_holds]
      rfl
  | insert c d =>
      have h := @placed_insert Unit s c d ()
      simp only [carryOut]
      cases hs : s.insert c d with
      | ok s' =>
          rw [hs] at h
          exact h
      | error e =>
          rw [hs] at h
          exact h
  | update c filter changes onInsert =>
      simp only [carryOut, Carries, update]
      cases hp : pick? (meets filter) (s.get c) with
      | some p =>
          -- One document is taken out of the list and put back, changed, unless it clashes.
          obtain ⟨hlist, hmeets, -⟩ := pick?_eq_some hp
          have hmiddle : (s.get c).Perm (p.found :: p.others) := hlist ▸ List.perm_middle
          have hothers : (s.holds c).erase p.found = ↑p.others := by
            rw [holds, Multiset.coe_eq_coe.mpr hmiddle, ← Multiset.cons_coe]
            exact Multiset.erase_cons_head ..
          refine .inl ⟨p.found, hmiddle.mem_iff.mpr List.mem_cons_self, hmeets, ?_⟩
          rw [hothers]
          dsimp only
          by_cases h : clashes c (p.found.putAll changes) p.others
          · rw [if_pos h]
            exact placed_refused h
          · rw [if_neg h]
            exact placed_set List.perm_middle h
      | none =>
          have hnone : ∀ d ∈ s.holds c, ¬ meets filter d := fun d hd hmeets =>
            absurd (pick?_eq_none_iff.mp hp d hd) (by rw [hmeets]; decide)
          refine .inr ⟨hnone, ?_⟩
          cases onInsert with
          | none => exact ⟨rfl, rfl⟩
          | some more =>
              have h := @placed_insert Nat s c (((ofFilter filter).putAll more).putAll changes) 0
              dsimp only
              cases hs : s.insert c (((ofFilter filter).putAll more).putAll changes) with
              | ok s' =>
                  rw [hs] at h
                  exact h
              | error e =>
                  rw [hs] at h
                  exact h
  | delete c filter =>
      have hsplit := List.length_eq_length_filter_add (l := s.get c) (meets filter)
      refine ⟨?_, ?_⟩
      · rw [filter_holds]
        refine congrArg Except.ok ?_
        show (s.get c).length - ((s.get c).filter fun d => !meets filter d).length = _
        rw [hsplit, Nat.add_sub_cancel]
        rfl
      · refine (holds_set ..).trans (congrArg _ ?_)
        simp [holds]

end Contents

namespace Server

/-- The server of the rehearsals as a host. -/
def host : Host Server := ⟨answer, fun s => s.contents.holds, fun s => s.saved.map Contents.holds⟩

theorem saved_host {s : Server} (h : s.saved = none) : host.saved s = none :=
  congrArg (Option.map Contents.holds) h

theorem lawful_host : host.Lawful where
  single c w hw := ⟨w.contents.carries_carryOut c, hw⟩
  within c w := by
    refine ⟨w.contents.carries_carryOut c, ?_⟩
    cases hs : w.saved with
    | none => simp [host, answer, carryOut, opened, hs]
    | some before => simp [host, answer, carryOut, opened, hs]
  commit w _ := ⟨rfl, rfl, rfl⟩
  abort w hw := by
    refine ⟨?_, rfl⟩
    obtain ⟨before, hbefore⟩ := Option.isSome_iff_exists.mp hw
    obtain ⟨contents, hs, -⟩ := Option.map_eq_some_iff.mp hbefore
    simp [host, answer, restored, hs]

end Server

end Roster.Document
