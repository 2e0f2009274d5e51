/-
# The record of a caller

Every request that needs the record of its caller asks for it in the same way, and there
are two ways through that.  A caller that is known has its profile brought up to date; one
that is new is registered under a slug made of its identity, or under a numbered one.

Both end with a store that has the record that is returned, with the profile of the caller
(`Settled`).  So the second time is always the first way, with nothing to bring up to date,
whichever way the first time was.
-/
import Roster.Proofs.Service.Attempts

namespace Roster

/-- The record with the profile of a caller.  Only a profile that differs moves the time. -/
def User.refreshed (old : User) (c : Caller) (now : Int) : User :=
  { old with
    firstName := c.firstName, lastName := c.lastName, email := c.email
    updateTime :=
      if old.firstName = c.firstName ∧ old.lastName = c.lastName ∧ old.email = c.email then
        old.updateTime
      else now }

namespace Service

open Store (Memory)
open Store.Memory (SlugsKept)

/-! ## The slugs that are tried -/

namespace Users

/-- A slug is made of the first of the texts that gives one, and is a fixed word if none does. -/
inductive FirstSlug (texts : List String) : String → Prop
  | made {before after : List String} {text slug : String} :
      texts = before ++ text :: after → (∀ t ∈ before, Slug.ofText? t = none) →
        Slug.ofText? text = some slug → FirstSlug texts slug
  | word : (∀ t ∈ texts, Slug.ofText? t = none) → FirstSlug texts "user"

/-- The attempt is the first whose slug nobody has. -/
structure FirstFree (s : Memory) (base : String) (n : Nat) : Prop where
  pos : 1 ≤ n
  last : n ≤ maxAttempts
  free : s.Free (candidate base n)
  first : ∀ m, 1 ≤ m → m < n → ¬ s.Free (candidate base m)

theorem slugSources_eq (c : Caller) (id : String) :
    slugSources c id = (c.email.map localPart).toList ++ c.fullName.toList ++ [id] := by
  unfold slugSources
  cases c.email with
  | none => cases c.fullName <;> rfl
  | some email => cases c.fullName <;> rfl

theorem firstSlug_slugBase (c : Caller) (id : String) :
    FirstSlug (slugSources c id) (slugBase c id) := by
  unfold slugBase
  cases hfirst : (slugSources c id).findSome? Slug.ofText? with
  | none => exact .word (List.findSome?_eq_none_iff.mp hfirst)
  | some slug =>
      obtain ⟨before, text, after, htexts, hslug, hbefore⟩ := List.findSome?_eq_some_iff.mp hfirst
      exact .made htexts hbefore hslug

theorem firstFree?_eq_some_iff {s : Memory} (hs : s.SlugsKept) {base : String} {n : Nat} :
    firstFree? s base (List.range' 1 maxAttempts) = some n ↔ FirstFree s base n := by
  simp only [firstFree?, List.find?_range'_eq_some, ← hs.free_iff, List.mem_range'_1,
    Option.isNone_iff_eq_none, Bool.not_eq_true', Option.isNone_eq_false_iff,
    Option.isSome_iff_ne_none, ne_eq]
  constructor
  · rintro ⟨hfree, ⟨hpos, hlast⟩, hfirst⟩
    exact ⟨hpos, by omega, hfree, hfirst⟩
  · rintro ⟨hpos, hlast, hfree, hfirst⟩
    exact ⟨hfree, ⟨hpos, by omega⟩, hfirst⟩

end Users

/-! ## The two ways -/

variable {s : Memory} {c : Caller} {id : String} {old : User} {σ : Supply}

theorem sameProfile_iff : Users.sameProfile old c ↔
    old.firstName = c.firstName ∧ old.lastName = c.lastName ∧ old.email = c.email := by
  simp [Users.sameProfile, and_assoc]

/-- A known caller has its profile brought up to date. -/
theorem alone_ensure_of_known (hs : s.SlugsKept) (hid : c.id = some id)
    (hknown : s.users.get? id = some old) :
    let user := old.refreshed c (σ.times 0)
    ∃ w, alone (Users.ensure c) s σ = (.ok user, w) ∧
      w.store = { s with users := s.users.insert id user } := by
  intro user
  rw [alone, run_ensure_of_known hid hknown, Users.refresh]
  by_cases hsame : Users.sameProfile old c
  · have huser : user = old := by
      obtain ⟨hfirst, hlast, hemail⟩ := sameProfile_iff.mp hsame
      simp only [user, User.refreshed]
      rw [if_pos ⟨hfirst, hlast, hemail⟩, ← hfirst, ← hlast, ← hemail]
    rw [if_pos hsame, huser, Table.insert_self hknown]
    exact ⟨_, rfl, rfl⟩
  · have huser : user =
        { old with
          firstName := c.firstName, lastName := c.lastName, email := c.email
          updateTime := σ.times 0 } := by
      simp only [user, User.refreshed]
      rw [if_neg (mt sameProfile_iff.mpr hsame)]
    obtain rfl : old.id = id := hs.users hknown
    rw [if_neg hsame, run_now, run_call, huser]
    simp only [World.after, World.answer, Memory.answer, Memory.updateProfile, hknown]
    exact ⟨_, rfl, rfl⟩

/-- A new caller is registered under the first slug that nobody has. -/
theorem alone_ensure_of_new (hs : s.SlugsKept) (hid : c.id = some id)
    (hnew : s.users.get? id = none) {n : Nat}
    (hn : Users.FirstFree s (Users.slugBase c id) n) :
    let slug := Users.candidate (Users.slugBase c id) n
    let user := Users.newUser c id slug (σ.ids 0) (σ.times 0)
    ∃ w, alone (Users.ensure c) s σ = (.ok user, w) ∧
      w.store =
        { s with
          namespaces := s.namespaces.insert slug user.namespace
          users := s.users.insert id user } := by
  intro slug user
  have hrun := run_register c (Users.slugBase c id)
    (w := World.after (.findUser id) ⟨s, σ, []⟩) hnew (List.range' 1 Users.maxAttempts)
  rw [show (World.after (.findUser id) ⟨s, σ, []⟩).store = s from rfl,
    (Users.firstFree?_eq_some_iff hs).mpr hn] at hrun
  obtain ⟨w, hrun, hstore⟩ := hrun
  refine ⟨w, (run_ensure_of_new hid hnew).trans hrun, ?_⟩
  rw [hstore]
  exact congrArg Prod.snd (answer_insertUser_of_new (hs.free_iff.mp hn.free) hnew)

theorem not_canRegister_iff (hs : s.SlugsKept) :
    ¬ CanRegister s c id ↔ s.users.get? id = none ∧
      ∀ n, 1 ≤ n → n ≤ Users.maxAttempts →
        ¬ s.Free (Users.candidate (Users.slugBase c id) n) := by
  simp only [CanRegister, ← hs.free_iff, Table.contains, not_or, not_exists, not_and,
    Bool.not_eq_true, Option.isSome_eq_false_iff, Option.isNone_iff_eq_none, List.mem_range'_1]
  refine and_congr_right fun _ => forall_congr' fun n => ?_
  constructor
  · intro h hpos hlast
    exact h ⟨hpos, by omega⟩
  · rintro h ⟨hpos, hlast⟩
    exact h hpos (by omega)

/-- What is returned is stored, so that the same caller is answered the same again. -/
theorem alone_ensure_again (hs : s.SlugsKept) {own : User} {w : World}
    (h : alone (Users.ensure c) s σ = (.ok own, w)) (σ' : Supply) :
    ∃ w', alone (Users.ensure c) w.store σ' = (.ok own, w') ∧ w'.store = w.store := by
  have hknows : Knows w.store c own :=
    (settled_of_ensure (w := ⟨s, σ, []⟩) hs.users h).knows
  obtain ⟨w', hrun, hstore, -⟩ := run_ensure_of_knows (w := ⟨w.store, σ', []⟩) hknows
  exact ⟨w', hrun, hstore⟩

/-- **A caller alone gets the record that it has, brought up to date, or a new one** under the first
of twenty slugs that nobody has, in any store that traffic can reach.  The slugs are made of the
first of three texts that gives one: the email address up to the `@`, the full name, which is made
of the first and the last name as far as they are not blank, and the id.  A caller is refused
exactly if it is new and all of the slugs are in use, and then nothing has changed.  Whatever
record the caller gets, it gets the same one again, and nothing changes any more. -/
theorem caller_gets_its_record {D : Desk} {t : Traffic D} (ht : t.Reached) {c : Caller} {u : String}
    (hid : c.id = some u) (σ : Supply) :
    let s := t.store
    let answer := (alone (Users.ensure c) s σ).1
    let w := (alone (Users.ensure c) s σ).2
    let base := Users.slugBase c u
    let localPart := c.email.map fun email => String.ofList (email.toList.takeWhile (· ≠ '@'))
    let first := Text.trim (c.firstName.getD "")
    let last := Text.trim (c.lastName.getD "")
    let name := if first = "" then if last = "" then none else some last
      else some (if last = "" then first else first ++ " " ++ last)
    (∀ old, s.users.get? u = some old →
      let user := old.refreshed c (σ.times 0)
      answer = .ok user ∧ w.store = { s with users := s.users.insert u user }) ∧
    Users.FirstSlug (localPart.toList ++ name.toList ++ [u]) base ∧
    (∀ n, s.users.get? u = none → Users.FirstFree s base n →
      let slug := Users.candidate base n
      let user := Users.newUser c u slug (σ.ids 0) (σ.times 0)
      answer = .ok user ∧ w.store =
        { s with
          namespaces := s.namespaces.insert slug user.namespace
          users := s.users.insert u user }) ∧
    ((∃ f, answer = .error f) ↔ s.users.get? u = none ∧
      ∀ n, 1 ≤ n → n ≤ 20 → ¬ s.Free (Users.candidate base n)) ∧
    (∀ f, answer = .error f → f = .noSlugLeft u ∧ f.kind = .internal ∧ w.store = s) ∧
    ∀ user, answer = .ok user → ∀ σ', ∃ w',
      alone (Users.ensure c) w.store σ' = (.ok user, w') ∧ w'.store = w.store := by
  intro s answer w base localPart first last name
  have hs : s.SlugsKept := ht.slugsKept
  obtain ⟨hcan, hcannot⟩ := alone_ensure hid s σ
  have hname : c.fullName = name := fullName_eq c.firstName c.lastName
  have hbase : Users.FirstSlug (localPart.toList ++ name.toList ++ [u]) base := by
    have hfirst := Users.firstSlug_slugBase c u
    rw [Users.slugSources_eq, hname] at hfirst
    exact hfirst
  -- Whoever cannot register is refused, and nobody else is.
  have hrefused : ∀ f, answer = .error f → ¬ CanRegister s c u := by
    intro f hf hyes
    obtain ⟨user, huser⟩ := hcan hyes
    cases hf.symm.trans huser
  refine ⟨fun old hknown => ?_, hbase, fun n hnew hn => ?_, ?_,
    fun f hf => ?_, fun user huser σ' => ?_⟩
  · obtain ⟨w', hrun, hstore⟩ := alone_ensure_of_known hs hid hknown
    exact ⟨congrArg Prod.fst hrun, (congrArg (·.2.store) hrun).trans hstore⟩
  · obtain ⟨w', hrun, hstore⟩ := alone_ensure_of_new hs hid hnew hn
    exact ⟨congrArg Prod.fst hrun, (congrArg (·.2.store) hrun).trans hstore⟩
  · refine Iff.trans ⟨?_, fun hno => ⟨_, (hcannot hno).1⟩⟩ (not_canRegister_iff hs)
    rintro ⟨f, hf⟩
    exact hrefused f hf
  · obtain ⟨hanswer, hstore⟩ := hcannot (hrefused f hf)
    cases hf.symm.trans hanswer
    exact ⟨rfl, rfl, hstore⟩
  · exact alone_ensure_again (w := w) hs (Prod.ext huser rfl) σ'

/-- The word before the `@` is the slug of a group, so the caller gets a numbered one, and keeps
it. -/
theorem numbered_slug_kept :
    let ada : Caller := { id := some "ada" }
    let ben : Caller := { id := some "ben", email := some "lab@post.org" }
    let lab := (alone (Groups.create ada ⟨"Lab", "lab", none⟩) {} .counting).2
    ∃ user w, alone (Users.ensure ben) lab.store lab.supply = (.ok user, w) ∧
      user.slug = "lab-2" ∧ w.store.users.get? "ben" = some user ∧
      ∃ w', alone (Users.ensure ben) w.store w.supply = (.ok user, w') ∧ w'.store = w.store := by
  intro ada ben lab
  have hreached : (⟨lab.store, _⟩ : Traffic desk).Reached :=
    Traffic.Reached.alone (D := desk) .refl (.createGroup ada ⟨"Lab", "lab", none⟩)
      Supply.shaped_counting
  obtain ⟨-, -, hnew, -, -, hagain⟩ :=
    caller_gets_its_record hreached (c := ben) (u := "ben") rfl lab.supply
  have hunknown : lab.store.users.get? "ben" = none := by rfl
  have hfirst : Users.FirstFree lab.store (Users.slugBase ben "ben") 2 :=
    (Users.firstFree?_eq_some_iff hreached.slugsKept).mp (by decide +kernel)
  have hslug : Users.candidate (Users.slugBase ben "ben") 2 = "lab-2" := by decide +kernel
  have hmade := hnew 2 hunknown hfirst
  rw [hslug] at hmade
  generalize alone (Users.ensure ben) lab.store lab.supply = made at hmade hagain ⊢
  obtain ⟨answer, w⟩ := made
  obtain ⟨hanswer, hstore⟩ := hmade
  refine ⟨_, w, congrArg (·, w) hanswer, rfl, ?_, hagain _ hanswer _⟩
  rw [hstore]
  exact (Table.get?_insert ..).trans (if_pos rfl)

end Service

end Roster
