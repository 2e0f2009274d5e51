/-
# Requests alone

A plan carried out with nobody in between.  The times that the clock will show and
the ids that will be given out are a supply chosen beforehand, so that a statement
for every supply is one for every answer that clock and chance can give.  The
world also notes what was asked, in the form in which `Traffic` notes it.

A request served alone is a piece of traffic (`Traffic.Reached.alone`), hence a store
that requests leave one after the other is one that traffic can reach.
-/
import Roster.Proofs.Traffic

namespace Roster

namespace Plan

variable {Ask : Type} {Answer : Ask → Type} {α β σ : Type}

/-- A plan that goes on from another one is carried out after it, unless that one fails. -/
theorem run_bind (answer : (q : Ask) → σ → Answer q × σ) (p : Plan Ask Answer α)
    (k : α → Plan Ask Answer β) (s : σ) :
    (p >>= k).run answer s =
      match p.run answer s with
      | (.ok a, s') => (k a).run answer s'
      | (.error f, s') => (.error f, s') := by
  induction p generalizing s with
  | done a => rfl
  | fail f => rfl
  | ask q next ih => exact ih _ _

/-- A plan that goes on from another one ends well only if both do. -/
theorem run_bind_eq_ok {answer : (q : Ask) → σ → Answer q × σ} {p : Plan Ask Answer α}
    {k : α → Plan Ask Answer β} {s s' : σ} {b : β}
    (h : (p >>= k).run answer s = (.ok b, s')) :
    ∃ a s'', p.run answer s = (.ok a, s'') ∧ (k a).run answer s'' = (.ok b, s') := by
  rw [run_bind] at h
  cases hp : p.run answer s with
  | mk o s'' =>
      rw [hp] at h
      cases o with
      | ok a => exact ⟨a, s'', rfl, h⟩
      | error f => cases h

/-- A failure that is caught is one more value. -/
theorem run_attempt (answer : (q : Ask) → σ → Answer q × σ) (p : Plan Ask Answer α) (s : σ) :
    p.attempt.run answer s = (.ok (p.run answer s).1, (p.run answer s).2) := by
  induction p generalizing s with
  | done a => rfl
  | fail f => rfl
  | ask q next ih => exact ih _ _

end Plan

namespace Service

open Store (Call Memory)

/-- What the clock will show and which ids will be given out, one after the other. -/
structure Supply where
  times : Nat → Int
  ids : Nat → String

/-- All ids of the supply look like ids. -/
def Supply.Shaped (σ : Supply) : Prop := ∀ n, Ulid.Shaped (σ.ids n)

/-- The clock counts seconds, and each second has its id. -/
def Supply.counting : Supply := ⟨fun n => n, fun n => Ulid.text n 0⟩

theorem Supply.shaped_counting : Supply.counting.Shaped := fun n => Ulid.shaped_text n 0

/-- The store with a supply of times and ids, and a note of all that was asked. -/
structure World where
  store : Memory
  supply : Supply
  /-- The last inquiry first. -/
  log : List Inquiry := []

/-- Answers a question and notes it down. -/
def World.answer : (q : Ask) → World → q.Answer × World
  | .store c, w =>
      ((Memory.answer c w.store).1,
        { w with store := (Memory.answer c w.store).2, log := .ofCall c w.store :: w.log })
  | .clock, w =>
      (w.supply.times 0,
        { w with
          supply := { w.supply with times := fun n => w.supply.times (n + 1) }
          log := ⟨.clock, w.supply.times 0, w.store, w.store⟩ :: w.log })
  | .freshId, w =>
      (w.supply.ids 0,
        { w with
          supply := { w.supply with ids := fun n => w.supply.ids (n + 1) }
          log := ⟨.freshId, w.supply.ids 0, w.store, w.store⟩ :: w.log })

/-- Carries out a plan with nobody in between. -/
def alone (p : Service α) (s : Memory) (σ : Supply) : Except Fault α × World :=
  p.run World.answer ⟨s, σ, []⟩

/-- The world after a call of the store. -/
def World.after (c : Call) (w : World) : World := (w.answer (.store c)).2

/-- What every call keeps, a plan alone keeps. -/
theorem World.store_inv {I : Memory → Prop}
    (hcall : ∀ (c : Call) (s : Memory), I s → I (Memory.answer c s).2) {p : Service α} {w : World}
    (hw : I w.store) : I (p.run World.answer w).2.store := by
  induction p generalizing w with
  | done a => exact hw
  | fail f => exact hw
  | ask q next ih =>
      refine ih (w.answer q).1 (w := (w.answer q).2) ?_
      cases q with
      | store c => exact hcall c w.store hw
      | clock => exact hw
      | freshId => exact hw

/-- A call is made, and the plan goes on if it is answered, whoever answers. -/
theorem run_call_by {ω : Type} (answer : (q : Ask) → ω → q.Answer × ω) (c : Call)
    (k : c.Answer → Service α) (w : ω) :
    (call c >>= k).run answer w =
      match (answer (.store c) w).1 with
      | .ok a => (k a).run answer (answer (.store c) w).2
      | .error f => (.error f, (answer (.store c) w).2) := by
  show ((Plan.ofExcept (answer (.store c) w).1 >>= k).run answer (answer (.store c) w).2) = _
  cases (answer (.store c) w).1 with
  | ok a => rfl
  | error f => rfl

theorem run_call (c : Call) (k : c.Answer → Service α) (w : World) :
    (call c >>= k).run World.answer w =
      match (Memory.answer c w.store).1 with
      | .ok a => (k a).run World.answer (w.after c)
      | .error f => (.error f, w.after c) :=
  run_call_by World.answer c k w

@[simp] theorem World.after_store (c : Call) (w : World) :
    (w.after c).store = (Memory.answer c w.store).2 := rfl

theorem run_call_of_ok {c : Call} {a : c.Answer} {w : World}
    (h : (Memory.answer c w.store).1 = .ok a) (k : c.Answer → Service α) :
    (call c >>= k).run World.answer w = (k a).run World.answer (w.after c) := by
  rw [run_call, h]

theorem run_call_of_error {c : Call} {f : Fault} {w : World}
    (h : (Memory.answer c w.store).1 = .error f) (k : c.Answer → Service α) :
    (call c >>= k).run World.answer w = (.error f, w.after c) := by
  rw [run_call, h]

theorem run_tryCall (c : Call) (k : Except Fault c.Answer → Service α) (w : World) :
    (tryCall c >>= k).run World.answer w =
      (k (Memory.answer c w.store).1).run World.answer (w.after c) := rfl

theorem run_now (k : Int → Service α) (w : World) :
    (now >>= k).run World.answer w =
      (k (w.supply.times 0)).run World.answer (w.answer .clock).2 := rfl

theorem run_freshId (k : String → Service α) (w : World) :
    (freshId >>= k).run World.answer w =
      (k (w.supply.ids 0)).run World.answer (w.answer .freshId).2 := rfl

/-- Carries out plans one after the other: their outcomes, and the store that is left. -/
def inTurn : List (Service α) → Memory → Supply → List (Except Fault α) × Memory
  | [], s, _ => ([], s)
  | p :: ps, s, σ =>
      let (o, w) := alone p s σ
      let (os, s') := inTurn ps w.store w.supply
      (o :: os, s')

/-- Alone in a store, the plan has this outcome and leaves this store, whatever the clock shows and
whatever ids are given out. -/
def Leads (p : Service α) (s : Memory) (o : Except Fault α) (s' : Memory) : Prop :=
  ∀ σ, ∃ w, alone p s σ = (o, w) ∧ w.store = s'

/-- Requests that leave the store as it is are answered in turn as each of them is alone. -/
theorem inTurn_of_unchanged {ι : Type} {plan : ι → Service α} {answer : ι → α} {s : Memory}
    (h : ∀ i σ, ∃ w, alone (plan i) s σ = (.ok (answer i), w) ∧ w.store = s) (is : List ι)
    (σ : Supply) : inTurn (is.map plan) s σ = (is.map fun i => .ok (answer i), s) := by
  induction is generalizing σ with
  | nil => rfl
  | cons i is ih =>
      obtain ⟨w, hw, hstore⟩ := h i σ
      rw [List.map_cons, inTurn, hw]
      dsimp only
      rw [hstore, ih w.supply]
      rfl

/-- The note that an answer makes. -/
def World.inquiry (q : Ask) (w : World) : Inquiry :=
  ⟨q, (w.answer q).1, w.store, (w.answer q).2.store⟩

@[simp] theorem World.answer_log (q : Ask) (w : World) :
    (w.answer q).2.log = w.inquiry q :: w.log := by
  cases q <;> rfl

theorem World.possible_inquiry {w : World} (h : w.supply.Shaped) (q : Ask) :
    (w.inquiry q).Possible := by
  cases q with
  | store c => exact .call c w.store
  | clock => exact .clock _ _
  | freshId => exact .freshId _ (h 0)

theorem World.shaped_answer {w : World} (h : w.supply.Shaped) (q : Ask) :
    (w.answer q).2.supply.Shaped := by
  cases q with
  | store c => exact h
  | clock => exact h
  | freshId => exact fun n => h (n + 1)

theorem World.shaped_run {α : Type} {p : Service α} {w : World} (h : w.supply.Shaped) :
    (p.run World.answer w).2.supply.Shaped := by
  induction p generalizing w with
  | done a => exact h
  | fail f => exact h
  | ask q next ih => exact ih (w.answer q).1 (World.shaped_answer h q)

/-! ## A plan alone does what it does in traffic -/

variable {α : Type} {I : Memory → Prop} {asks : List Inquiry → Ask → Prop}
  {ends : List Inquiry → Except Fault α → Prop}

theorem Abides.run (hkeeps : Keeps I asks) {p : Service α} {w : World} (hσ : w.supply.Shaped)
    (hI : I w.store) (hlog : Heeded I asks w.log) (hp : Abides I asks ends p w.log) :
    I (p.run World.answer w).2.store ∧ Heeded I asks (p.run World.answer w).2.log ∧
      ends (p.run World.answer w).2.log (p.run World.answer w).1 := by
  induction p generalizing w with
  | done a => exact ⟨hI, hlog, hp⟩
  | fail f => exact ⟨hI, hlog, hp⟩
  | ask q next ih =>
      have hq := World.possible_inquiry hσ q
      refine ih (w.answer q).1 (w := (w.answer q).2) (World.shaped_answer hσ q)
        (hkeeps w.log _ hlog hI hq hp.1) ?_ ?_
      · rw [World.answer_log]
        exact ⟨hI, hq, hp.1, hlog⟩
      · rw [World.answer_log]
        exact hp.2 _ _ _ hI hq

/-- **A plan that abides by its rule does so alone.** -/
theorem Abides.alone (hkeeps : Keeps I asks) {p : Service α} {s : Memory} {σ : Supply}
    (hσ : σ.Shaped) (hI : I s) (hp : Abides I asks ends p []) :
    I (alone p s σ).2.store ∧ Heeded I asks (alone p s σ).2.log ∧
      ends (alone p s σ).2.log (alone p s σ).1 :=
  Abides.run hkeeps (w := ⟨s, σ, []⟩) hσ hI trivial hp

/-- The inquiries lead from one store to another, each from where the one before it ended. -/
def Chained (s : Memory) : List Inquiry → Memory → Prop
  | [], s' => s = s'
  | e :: past, s' => e.after = s' ∧ Chained s past e.before

theorem chained_run {s : Memory} {p : Service α} {w : World} (h : Chained s w.log w.store) :
    Chained s (p.run World.answer w).2.log (p.run World.answer w).2.store := by
  induction p generalizing w with
  | done a => exact h
  | fail f => exact h
  | ask q next ih =>
      refine ih (w.answer q).1 (w := (w.answer q).2) ?_
      rw [World.answer_log]
      exact ⟨rfl, h⟩

theorem chained_alone (p : Service α) (s : Memory) (σ : Supply) :
    Chained s (alone p s σ).2.log (alone p s σ).2.store :=
  chained_run (w := ⟨s, σ, []⟩) rfl

/-- Inquiries that change nothing all find the store in which they began. -/
theorem Chained.before_eq {s s' : Memory} {past : List Inquiry} (h : Chained s past s')
    (hsame : ∀ e ∈ past, e.after = e.before) : s' = s ∧ ∀ e ∈ past, e.before = s := by
  induction past generalizing s' with
  | nil => exact ⟨h.symm, fun e he => absurd he List.not_mem_nil⟩
  | cons e past ih =>
      obtain ⟨hafter, hpast⟩ := h
      obtain ⟨hbefore, hall⟩ := ih hpast fun d hd => hsame d (List.mem_cons_of_mem _ hd)
      have he : e.after = e.before := hsame e List.mem_cons_self
      refine ⟨by rw [← hafter, he, hbefore], fun d hd => ?_⟩
      rcases List.mem_cons.mp hd with rfl | hd
      · exact hbefore
      · exact hall d hd

/-- What leads from each inquiry to the next leads from the first store to the last. -/
theorem Chained.moves {R : Memory → Memory → Prop} {s s' : Memory} {past : List Inquiry}
    (h : Chained s past s') (hrefl : ∀ s, R s s)
    (htrans : ∀ {s s' s''}, R s s' → R s' s'' → R s s'') (hpast : ∀ e ∈ past, R e.before e.after) :
    R s s' := by
  induction past generalizing s' with
  | nil => exact h ▸ hrefl s
  | cons e past ih =>
      obtain ⟨rfl, hbefore⟩ := h
      exact htrans (ih hbefore fun d hd => hpast d (List.mem_cons_of_mem e hd))
        (hpast e List.mem_cons_self)

/-- If something changes between two stores, it changes at one of the inquiries that lead
from one to the other, and not before it. -/
theorem Chained.first_change {s s' : Memory} {past : List Inquiry} (h : Chained s past s')
    {β : Type} (view : Memory → β) (hne : view s ≠ view s') :
    ∃ later e earlier, past = later ++ e :: earlier ∧ Chained s earlier e.before ∧
      view s = view e.before ∧ view e.before ≠ view e.after := by
  induction past generalizing s' with
  | nil => exact absurd (congrArg view h) hne
  | cons e past ih =>
      obtain ⟨rfl, hpast⟩ := h
      by_cases hv : view s = view e.before
      · exact ⟨[], e, past, rfl, hpast, hv, fun he => hne (hv.trans he)⟩
      · -- It had changed before this inquiry already.
        obtain ⟨later, d, earlier, hp, hc, hs, hd⟩ := ih hpast hv
        exact ⟨e :: later, d, earlier, by rw [hp, List.cons_append], hc, hs, hd⟩

/-! ## Requests one after the other are traffic -/

variable {D : Desk}

theorem Traffic.Reached.turns {r : D.Request} {fs : List (Flight D)} {p : Service (D.Result r)}
    {w : World} (hσ : w.supply.Shaped)
    (ht : (⟨w.store, fs ++ [⟨r, w.log, p⟩]⟩ : Traffic D).Reached) :
    (⟨(p.run World.answer w).2.store, fs ++
      [⟨r, (p.run World.answer w).2.log, .ofExcept (p.run World.answer w).1⟩]⟩ :
        Traffic D).Reached := by
  induction p generalizing w with
  | done a => exact ht
  | fail f => exact ht
  | ask q next ih =>
      refine ih (w.answer q).1 (w := (w.answer q).2) (World.shaped_answer hσ q) ?_
      have hturn : Flight.Turn w.store ⟨r, w.log, .ask q next⟩ (w.answer q).2.store
          ⟨r, w.inquiry q :: w.log, next (w.answer q).1⟩ :=
        .answered (e := w.inquiry q) next (World.possible_inquiry hσ q)
      rw [World.answer_log]
      exact ht.tail (.turn fs [] hturn)

/-- **A request served alone is traffic**: from a store that can be reached, it leads to
one that can be reached. -/
theorem Traffic.Reached.alone {t : Traffic D} (ht : t.Reached) (r : D.Request) {σ : Supply}
    (hσ : σ.Shaped) :
    (⟨(Service.alone (D.plan r) t.store σ).2.store, t.flights ++
      [⟨r, (Service.alone (D.plan r) t.store σ).2.log,
        .ofExcept (Service.alone (D.plan r) t.store σ).1⟩]⟩ : Traffic D).Reached :=
  Traffic.Reached.turns (w := ⟨t.store, σ, []⟩) hσ (ht.tail (.arrive t.store t.flights r))

/-- So are requests that are served one after the other, here given by what their plans do. -/
theorem Traffic.Reached.inTurn {ι α : Type} (request : ι → D.Request) (plan : ι → Service α)
    (hplan : ∀ i s σ, (Service.alone (D.plan (request i)) s σ).2 = (Service.alone (plan i) s σ).2)
    (is : List ι) {t : Traffic D} (ht : t.Reached) {σ : Supply} (hσ : σ.Shaped) :
    ∃ fs, (⟨(Service.inTurn (is.map plan) t.store σ).2, fs⟩ : Traffic D).Reached := by
  induction is generalizing t σ with
  | nil => exact ⟨t.flights, ht⟩
  | cons i is ih =>
      have hnext := ht.alone (request i) hσ
      rw [hplan] at hnext
      exact ih hnext (World.shaped_run hσ)

/-- Traffic can lead to the store of the world, and the ids to come look like ids. -/
def World.Reached (D : Desk) (w : World) : Prop :=
  w.supply.Shaped ∧ ∃ fs, (⟨w.store, fs⟩ : Traffic D).Reached

/-- A world without a past. -/
theorem World.reached_counting (D : Desk) : World.Reached D ⟨{}, .counting, []⟩ :=
  ⟨Supply.shaped_counting, [], .refl⟩

/-- The world that a request leaves can be reached again. -/
theorem World.Reached.alone {w : World} (h : w.Reached D) (r : D.Request) :
    (Service.alone (D.plan r) w.store w.supply).2.Reached D := by
  obtain ⟨hsupply, fs, hreached⟩ := h
  exact ⟨World.shaped_run hsupply, _, hreached.alone r hsupply⟩

end Service

end Roster
