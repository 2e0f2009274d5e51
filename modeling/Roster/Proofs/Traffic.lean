/-
# Requests in traffic

Any number of requests are served at the same time.  Each of them is a plan, and
the plans take turns: a turn answers one question of one plan, and a call of the
store is one question.  Between two questions of a request, the others may do
what they like.

Two ways to look at this stand here.

* `Traffic` is the store together with the requests on their way, and
  `Traffic.Reached` says that some order of arrivals and turns leads there from
  an empty store.
* `alone` carries out one plan without anybody in between.

What can be said of a plan whatever it is answered is `Abides`: each question is
allowed in view of what was answered before.  It is a statement about the plan
as a tree, proved along the code of a service (`abides_bind`, `abides_ask_store`),
and it holds of the same plan in traffic (`Traffic.Reached.abides`) and alone
(`Abides.alone`).  No request has to know of the others for that; what they do to
the store in between enters only as the property `I` of the stores that are met.
-/
import Mathlib.Logic.Relation
import Roster.Store.Memory
import Roster.Ulid

namespace Roster

/-! ## What ids look like -/

/-- Every id that is given out has 26 characters, and no underscore among them. -/
def Ulid.Shaped (id : String) : Prop := id.toList.length = 26 ∧ '_' ∉ id.toList

theorem Ulid.digit_ne_underscore (n : Nat) : Ulid.digit n ≠ '_' := by
  have h : ∀ i < 32, Ulid.alphabet.getD i '0' ≠ '_' := by decide
  exact h _ (Nat.mod_lt n (by decide))

theorem Ulid.underscore_not_mem_digits (width n : Nat) : '_' ∉ Ulid.digits width n := by
  induction width generalizing n with
  | zero => exact List.not_mem_nil
  | succ w ih =>
      simp only [Ulid.digits, List.mem_append, List.mem_singleton, not_or]
      exact ⟨ih _, (Ulid.digit_ne_underscore n).symm⟩

theorem Ulid.shaped_text (moment chance : Nat) : Ulid.Shaped (Ulid.text moment chance) := by
  simp only [Ulid.Shaped, Ulid.text, Ulid.chanceText, String.toList_append, String.toList_ofList,
    List.length_append, Ulid.length_digits, List.mem_append, not_or]
  exact ⟨rfl, Ulid.underscore_not_mem_digits _ _, Ulid.underscore_not_mem_digits _ _⟩

namespace Service

open Store (Call Memory)

/-! ## Questions with their answers -/

/-- A question that was answered, with the store just before and just after. -/
structure Inquiry where
  ask : Ask
  answer : ask.Answer
  before : Memory
  after : Memory

/-- A call of the store, answered from `s`. -/
def Inquiry.ofCall (c : Call) (s : Memory) : Inquiry :=
  ⟨.store c, (Memory.answer c s).1, s, (Memory.answer c s).2⟩

/-- What can happen: the store answers a call in one step, the clock shows any time,
and a fresh id is anything that looks like an id. -/
inductive Inquiry.Possible : Inquiry → Prop where
  | call (c : Call) (s : Memory) : Possible (.ofCall c s)
  | clock (now : Int) (s : Memory) : Possible ⟨.clock, now, s, s⟩
  | freshId {id : String} (s : Memory) : Ulid.Shaped id → Possible ⟨.freshId, id, s, s⟩

/-! ## Traffic -/

/-- What can be asked for, and the plan by which it is served. -/
structure Desk where
  Request : Type
  Result : Request → Type
  plan : (r : Request) → Service (Result r)

variable {D : Desk}

/-- A request on its way: what has been answered so far, the last answer first, and
what is left of its plan. -/
structure Flight (D : Desk) where
  request : D.Request
  past : List Inquiry
  rest : Service (D.Result request)

/-- A request that has just arrived. -/
def Flight.start (r : D.Request) : Flight D := ⟨r, [], D.plan r⟩

/-- One question of a request is answered, and the store changes with it. -/
inductive Flight.Turn : Memory → Flight D → Memory → Flight D → Prop where
  | answered {r : D.Request} {past : List Inquiry} {e : Inquiry}
      (next : e.ask.Answer → Service (D.Result r)) (h : e.Possible) :
      Turn e.before ⟨r, past, .ask e.ask next⟩ e.after ⟨r, e :: past, next e.answer⟩

/-- The store and all requests, those that have ended included. -/
structure Traffic (D : Desk) where
  store : Memory := {}
  flights : List (Flight D) := []

/-- A request arrives, or one of those on their way has its turn. -/
inductive Traffic.Step : Traffic D → Traffic D → Prop where
  | arrive (s : Memory) (fs : List (Flight D)) (r : D.Request) :
      Step ⟨s, fs⟩ ⟨s, fs ++ [.start r]⟩
  | turn {s s' : Memory} {f f' : Flight D} (l r : List (Flight D)) :
      Flight.Turn s f s' f' → Step ⟨s, l ++ f :: r⟩ ⟨s', l ++ f' :: r⟩

/-- Some order of arrivals and turns leads here from an empty store. -/
def Traffic.Reached (t : Traffic D) : Prop := Relation.ReflTransGen Traffic.Step {} t

/-- What every call of the store keeps, all traffic keeps. -/
theorem Traffic.Reached.store_inv {I : Memory → Prop} (hinit : I {})
    (hcall : ∀ (c : Call) (s : Memory), I s → I (Memory.answer c s).2) {t : Traffic D}
    (ht : t.Reached) : I t.store := by
  induction ht with
  | refl => exact hinit
  | tail _ hstep ih =>
      cases hstep with
      | arrive s fs r => exact ih
      | turn l r hturn =>
          cases hturn with
          | answered next h =>
              cases h with
              | call c s => exact hcall c s ih
              | clock now s => exact ih
              | freshId s _ => exact ih

/-! ## What a step changes -/

section Step

variable {t t' : Traffic D} {f : Flight D} {e : Inquiry}

/-- The store changes by a call only, which is the next question of some request. -/
theorem Traffic.Step.store_cases (h : t.Step t') :
    t'.store = t.store ∨ ∃ f ∈ t.flights, ∃ c next, f.rest = .ask (.store c) next ∧
      t'.store = (Memory.answer c t.store).2 ∧ ∃ f' ∈ t'.flights, .ofCall c t.store ∈ f'.past := by
  cases h with
  | arrive s fs r => exact .inl rfl
  | turn l r hturn =>
      cases hturn with
      | answered next he =>
          cases he with
          | clock now s => exact .inl rfl
          | freshId s _ => exact .inl rfl
          | call c s =>
              have hmem : ∀ f : Flight D, f ∈ l ++ f :: r := by simp
              exact .inr ⟨_, hmem _, c, next, rfl, rfl, _, hmem _, List.mem_cons_self⟩

/-- What a request was answered stays in its past. -/
theorem Traffic.Step.exists_past (h : t.Step t') (hf : f ∈ t.flights) (he : e ∈ f.past) :
    ∃ f' ∈ t'.flights, e ∈ f'.past := by
  cases h with
  | arrive s fs r => exact ⟨f, List.mem_append_left _ hf, he⟩
  | turn l r hturn =>
      cases hturn with
      | @answered q past now next _ =>
          rcases List.mem_append.mp hf with hf | hf
          · exact ⟨f, List.mem_append_left _ hf, he⟩
          · rcases List.mem_cons.mp hf with rfl | hf
            · exact ⟨⟨q, now :: past, next now.answer⟩, by simp, List.mem_cons_of_mem _ he⟩
            · exact ⟨f, List.mem_append_right _ (List.mem_cons_of_mem _ hf), he⟩

/-- What is in the past of a request was there before the step, or is what has happened in it. -/
theorem Traffic.Step.past_cases (h : t.Step t') (hf : f ∈ t'.flights) (he : e ∈ f.past) :
    (∃ f' ∈ t.flights, e ∈ f'.past) ∨ e.before = t.store ∧ e.after = t'.store := by
  cases h with
  | arrive s fs r =>
      rcases List.mem_append.mp hf with hf | hf
      · exact .inl ⟨f, hf, he⟩
      · rw [List.mem_singleton.mp hf] at he
        cases he
  | turn l r hturn =>
      cases hturn with
      | @answered q past now next _ =>
          rcases List.mem_append.mp hf with hf | hf
          · exact .inl ⟨f, List.mem_append_left _ hf, he⟩
          · rcases List.mem_cons.mp hf with rfl | hf
            · rcases List.mem_cons.mp he with rfl | he
              · exact .inr ⟨rfl, rfl⟩
              · exact .inl ⟨⟨q, past, .ask now.ask next⟩, by simp, he⟩
            · exact .inl ⟨f, List.mem_append_right _ (List.mem_cons_of_mem _ hf), he⟩

end Step

/-! ## What holds of a plan whatever it is answered -/

section Abides

variable {α β : Type} (I : Memory → Prop) (asks : List Inquiry → Ask → Prop)

/-- Whatever the answers that stores with the property `I` give, the plan asks only what
may be asked after what it was answered before, and ends as it may end. -/
def Abides (ends : List Inquiry → Except Fault α → Prop) : Service α → List Inquiry → Prop
  | .done a, past => ends past (.ok a)
  | .fail f, past => ends past (.error f)
  | .ask q next, past =>
      asks past q ∧ ∀ a s s', I s → Inquiry.Possible ⟨q, a, s, s'⟩ →
        Abides ends (next a) (⟨q, a, s, s'⟩ :: past)

/-- Everything that was asked could be asked then. -/
def Heeded : List Inquiry → Prop
  | [] => True
  | e :: past => I e.before ∧ e.Possible ∧ asks past e.ask ∧ Heeded past

/-- What may be asked keeps the property of the stores. -/
def Keeps : Prop :=
  ∀ (past : List Inquiry) (e : Inquiry), Heeded I asks past → I e.before → e.Possible →
    asks past e.ask → I e.after

end Abides

section Rules

variable {α β : Type} {I : Memory → Prop} {asks : List Inquiry → Ask → Prop}
  {ends : List Inquiry → Except Fault α → Prop} {past : List Inquiry}

theorem Heeded.split {later earlier : List Inquiry} {e : Inquiry}
    (h : Heeded I asks (later ++ e :: earlier)) :
    I e.before ∧ e.Possible ∧ asks earlier e.ask ∧ Heeded I asks earlier := by
  induction later with
  | nil => exact h
  | cons _ _ ih => exact ih h.2.2.2

/-- Each question was allowed in view of what had been asked before it. -/
theorem Heeded.of_mem {e : Inquiry} (h : Heeded I asks past) (he : e ∈ past) :
    ∃ earlier, earlier.Sublist past ∧ I e.before ∧ e.Possible ∧ asks earlier e.ask := by
  obtain ⟨later, earlier, rfl⟩ := List.append_of_mem he
  obtain ⟨hbefore, hpossible, hasks, -⟩ := h.split
  have hearlier : earlier.Sublist (later ++ e :: earlier) :=
    (List.sublist_cons_self e earlier).trans (List.sublist_append_right later _)
  exact ⟨earlier, hearlier, hbefore, hpossible, hasks⟩

theorem abides_bind {ends : List Inquiry → Except Fault β → Prop} {p : Service α}
    {k : α → Service β} :
    Abides I asks ends (p >>= k) past ↔
      Abides I asks (fun past o => match o with
        | .ok a => Abides I asks ends (k a) past
        | .error f => ends past (.error f)) p past := by
  induction p generalizing past with
  | done a => exact Iff.rfl
  | fail f => exact Iff.rfl
  | ask q next ih =>
      simp only [Plan.ask_bind, Abides]
      exact and_congr_right fun _ => forall_congr' fun a => forall_congr' fun s =>
        forall_congr' fun s' => imp_congr_right fun _ => imp_congr_right fun _ => ih a

/-- A plan that abides by a rule abides by one that allows it more ends. -/
theorem Abides.imp {ends' : List Inquiry → Except Fault α → Prop} {p : Service α}
    (h : Abides I asks ends p past) (himp : ∀ past o, ends past o → ends' past o) :
    Abides I asks ends' p past := by
  induction p generalizing past with
  | done a => exact himp _ _ h
  | fail f => exact himp _ _ h
  | ask q next ih =>
      exact ⟨h.1, fun a s s' hs hp => ih a (h.2 a s s' hs hp)⟩

/-- What a plan asks may be judged by another rule, which may look at what was answered, and by
which stores answered it. -/
theorem Abides.mono {I' : Memory → Prop} {asks' : List Inquiry → Ask → Prop} {p : Service α}
    (h : Abides I asks ends p past) (hI : ∀ s, I' s → I s) (hpast : Heeded I' asks past)
    (hasks : ∀ past q, Heeded I' asks past → asks past q → asks' past q) :
    Abides I' asks' ends p past := by
  induction p generalizing past with
  | done a => exact h
  | fail f => exact h
  | ask q next ih =>
      refine ⟨hasks past q hpast h.1, fun a s s' hs hp => ?_⟩
      exact ih a (h.2 a s s' (hI s hs) hp) ⟨hs, hp, h.1, hpast⟩

/-- Where anything may be asked, any plan abides. -/
theorem abides_anything (p : Service α) : Abides I (fun _ _ => True) (fun _ _ => True) p past := by
  induction p generalizing past with
  | done a => trivial
  | fail f => trivial
  | ask q next ih => exact ⟨trivial, fun a _ _ _ _ => ih a⟩

/-- A failure that is caught is one more value to end with. -/
theorem abides_attempt {ends : List Inquiry → Except Fault (Except Fault α) → Prop}
    {p : Service α} :
    Abides I asks ends p.attempt past ↔ Abides I asks (fun past o => ends past (.ok o)) p past := by
  induction p generalizing past with
  | done a => exact Iff.rfl
  | fail f => exact Iff.rfl
  | ask q next ih =>
      exact and_congr_right fun _ => forall_congr' fun a => forall_congr' fun s =>
        forall_congr' fun s' => imp_congr_right fun _ => imp_congr_right fun _ => ih a

/-- A call of the store is answered from some store with the property `I`. -/
theorem abides_ask_store {c : Call} {next : Except Fault c.Answer → Service α} :
    Abides I asks ends (.ask (.store c) next) past ↔
      asks past (.store c) ∧ ∀ s, I s →
        Abides I asks ends (next (Memory.answer c s).1) (.ofCall c s :: past) := by
  simp only [Abides]
  refine and_congr_right fun _ => ⟨fun h s hs => h _ s _ hs (.call c s), ?_⟩
  intro h a s s' hs hp
  cases hp with
  | call => exact h s hs

theorem abides_ask_clock {next : Int → Service α} :
    Abides I asks ends (.ask .clock next) past ↔
      asks past .clock ∧ ∀ (now : Int) s, I s →
        Abides I asks ends (next now) (⟨.clock, now, s, s⟩ :: past) := by
  simp only [Abides]
  refine and_congr_right fun _ => ⟨fun h now s hs => h now s s hs (.clock now s), ?_⟩
  intro h a s s' hs hp
  cases hp with
  | clock => exact h _ s hs

theorem abides_ask_freshId {next : String → Service α} :
    Abides I asks ends (.ask .freshId next) past ↔
      asks past .freshId ∧ ∀ (id : String) s, Ulid.Shaped id → I s →
        Abides I asks ends (next id) (⟨.freshId, id, s, s⟩ :: past) := by
  simp only [Abides]
  refine and_congr_right fun _ => ⟨fun h id s hid hs => h id s s hs (.freshId s hid), ?_⟩
  intro h a s s' hs hp
  cases hp with
  | freshId _ hid => exact h _ s hid hs

end Rules

/-- **The plans of all requests abide by their rules in traffic**: the store keeps its
property, and what each request has asked so far it could ask when it did. -/
theorem Traffic.abides {I : Memory → Prop} {asks : D.Request → List Inquiry → Ask → Prop}
    {ends : (r : D.Request) → List Inquiry → Except Fault (D.Result r) → Prop}
    (hkeeps : ∀ r, Keeps I (asks r)) (hplan : ∀ r, Abides I (asks r) (ends r) (D.plan r) [])
    {t t' : Traffic D} (h : Relation.ReflTransGen Traffic.Step t t') (hstore : I t.store)
    (hflights : ∀ f ∈ t.flights, Heeded I (asks f.request) f.past ∧
      Abides I (asks f.request) (ends f.request) f.rest f.past) :
    I t'.store ∧ ∀ f ∈ t'.flights, Heeded I (asks f.request) f.past ∧
      Abides I (asks f.request) (ends f.request) f.rest f.past := by
  induction h with
  | refl => exact ⟨hstore, hflights⟩
  | tail _ hstep ih =>
      obtain ⟨hstore, hflights⟩ := ih
      cases hstep with
      | arrive s fs r =>
          refine ⟨hstore, fun f hf => ?_⟩
          rcases List.mem_append.mp hf with hf | hf
          · exact hflights f hf
          · rw [List.mem_singleton.mp hf]
            exact ⟨trivial, hplan r⟩
      | turn l r hturn =>
          cases hturn with
          | @answered q past e next h =>
              -- The request whose turn it is has its plan's word for any answer from a store with
              -- the property; of the others nothing changes but the store around them.
              obtain ⟨hpast, hrest⟩ := hflights ⟨q, past, .ask e.ask next⟩ (by simp)
              have hheeded : Heeded I (asks q) (e :: past) := ⟨hstore, h, hrest.1, hpast⟩
              refine ⟨hkeeps q past e hpast hstore h hrest.1, fun f hf => ?_⟩
              rcases List.mem_append.mp hf with hf | hf
              · exact hflights f (List.mem_append_left _ hf)
              · rcases List.mem_cons.mp hf with rfl | hf
                · exact ⟨hheeded, hrest.2 e.answer e.before e.after hstore h⟩
                · exact hflights f (List.mem_append_right _ (List.mem_cons_of_mem _ hf))

theorem Traffic.Reached.abides {I : Memory → Prop} {asks : D.Request → List Inquiry → Ask → Prop}
    {ends : (r : D.Request) → List Inquiry → Except Fault (D.Result r) → Prop}
    (hinit : I {}) (hkeeps : ∀ r, Keeps I (asks r))
    (hplan : ∀ r, Abides I (asks r) (ends r) (D.plan r) []) {t : Traffic D} (ht : t.Reached) :
    I t.store ∧ ∀ f ∈ t.flights, Heeded I (asks f.request) f.past ∧
      Abides I (asks f.request) (ends f.request) f.rest f.past :=
  Traffic.abides hkeeps hplan ht hinit fun _ hf => absurd hf List.not_mem_nil

/-! ## What the others can do between two questions

The store moves by calls, whoever makes them.  So a relation that every call respects
leads from each answer of a request to its next question, and on to the store of now. -/

section Drift

variable {R : Memory → Memory → Prop}

/-- The store has moved along the relation from one question to the next. -/
def Drifted (R : Memory → Memory → Prop) (past : List Inquiry) : Prop :=
  past.Pairwise fun later earlier => R earlier.after later.before

theorem Inquiry.Possible.moves {e : Inquiry} (he : e.Possible) (hrefl : ∀ s, R s s)
    (hcall : ∀ (c : Call) (s : Memory), R s (Memory.answer c s).2) : R e.before e.after := by
  cases he with
  | call c s => exact hcall c s
  | clock now s => exact hrefl s
  | freshId s _ => exact hrefl s

theorem Traffic.Step.moves {t t' : Traffic D} (hstep : t.Step t') (hrefl : ∀ s, R s s)
    (hcall : ∀ (c : Call) (s : Memory), R s (Memory.answer c s).2) : R t.store t'.store := by
  cases hstep with
  | arrive s fs r => exact hrefl s
  | turn l r hturn =>
      cases hturn with
      | answered next he => exact he.moves hrefl hcall

theorem Traffic.moves {t t' : Traffic D} (h : Relation.ReflTransGen Traffic.Step t t')
    (hrefl : ∀ s, R s s) (htrans : ∀ {s s' s''}, R s s' → R s' s'' → R s s'')
    (hcall : ∀ (c : Call) (s : Memory), R s (Memory.answer c s).2) : R t.store t'.store := by
  induction h with
  | refl => exact hrefl _
  | tail _ hstep ih => exact htrans ih (hstep.moves hrefl hcall)

/-- **The store drifts along what every call respects**, as each request sees it. -/
theorem Traffic.Reached.drifted {t : Traffic D} (ht : t.Reached) (hrefl : ∀ s, R s s)
    (htrans : ∀ {s s' s''}, R s s' → R s' s'' → R s s'')
    (hcall : ∀ (c : Call) (s : Memory), R s (Memory.answer c s).2) :
    ∀ f ∈ t.flights, Drifted R f.past ∧ ∀ e ∈ f.past, R e.after t.store := by
  induction ht with
  | refl => exact fun f hf => absurd hf List.not_mem_nil
  | @tail u v _ hstep ih =>
      have hmoves : R u.store v.store := hstep.moves hrefl hcall
      intro f hf
      -- A flight that has not moved only sees the store go on.
      have hother : f ∈ u.flights → Drifted R f.past ∧ ∀ e ∈ f.past, R e.after v.store :=
        fun hf => ⟨(ih f hf).1, fun e he => htrans ((ih f hf).2 e he) hmoves⟩
      cases hstep with
      | arrive s fs r =>
          rcases List.mem_append.mp hf with hf | hf
          · exact ih f hf
          · rw [List.mem_singleton.mp hf]
            exact ⟨List.Pairwise.nil, fun e he => absurd he List.not_mem_nil⟩
      | turn l r hturn =>
          cases hturn with
          | @answered q past e next he =>
              rcases List.mem_append.mp hf with hf | hf
              · exact hother (List.mem_append_left _ hf)
              · rcases List.mem_cons.mp hf with rfl | hf
                · obtain ⟨hpast, hnow⟩ := ih ⟨q, past, .ask e.ask next⟩ (by simp)
                  refine ⟨List.pairwise_cons.mpr ⟨hnow, hpast⟩, fun d hd => ?_⟩
                  rcases List.mem_cons.mp hd with rfl | hd
                  · exact hrefl _
                  · exact htrans (hnow d hd) hmoves
                · exact hother (List.mem_append_right _ (List.mem_cons_of_mem _ hf))

end Drift

/-! ## How long a request takes -/

/-- The plan asks at most so many questions, whatever it is answered. -/
def AsksAtMost {α : Type} : Service α → Nat → Prop
  | .done _, _ => True
  | .fail _, _ => True
  | .ask _ next, n => 0 < n ∧ ∀ a, AsksAtMost (next a) (n - 1)

theorem AsksAtMost.mono {α : Type} {p : Service α} {m n : Nat} (h : AsksAtMost p m) (hle : m ≤ n) :
    AsksAtMost p n := by
  induction p generalizing m n with
  | done a => trivial
  | fail f => trivial
  | ask q next ih =>
      exact ⟨Nat.lt_of_lt_of_le h.1 hle, fun a => ih a (h.2 a) (Nat.sub_le_sub_right hle 1)⟩

/-- The questions of a request in traffic are those of its plan. -/
theorem Traffic.Reached.asksAtMost {t : Traffic D} (ht : t.Reached) :
    ∀ f ∈ t.flights, ∀ n, AsksAtMost (D.plan f.request) n →
      f.past.length ≤ n ∧ AsksAtMost f.rest (n - f.past.length) := by
  induction ht with
  | refl => exact fun f hf => absurd hf List.not_mem_nil
  | tail _ hstep ih =>
      intro f hf n hn
      cases hstep with
      | arrive s fs r =>
          rcases List.mem_append.mp hf with hf | hf
          · exact ih f hf n hn
          · rw [List.mem_singleton.mp hf] at hn ⊢
            exact ⟨Nat.zero_le n, hn⟩
      | turn l r hturn =>
          cases hturn with
          | @answered q past e next he =>
              rcases List.mem_append.mp hf with hf | hf
              · exact ih f (List.mem_append_left _ hf) n hn
              · rcases List.mem_cons.mp hf with rfl | hf
                · obtain ⟨-, hleft, hnext⟩ := ih ⟨q, past, .ask e.ask next⟩ (by simp) n hn
                  refine ⟨Nat.add_one_le_iff.mpr (Nat.lt_of_sub_pos hleft), ?_⟩
                  rw [List.length_cons, ← Nat.sub_sub]
                  exact hnext e.answer
                · exact ih f (List.mem_append_right _ (List.mem_cons_of_mem _ hf)) n hn

end Service

end Roster
