/-
# Two patches of one group

A patch names fields, but the service does not write them one by one: it looks at the
group, applies the patch to what it has seen, and writes all three texts back.  So two
patches that name different fields are not independent.

What holds of two patches in any order of their questions is `later_patch_stands`.  The
group is left as the one that was written last made it, out of the group that its own
request had seen: the group as it was at the start, or as the other patch had left it.
In the second case the fields of both patches stand.  In the first case the later one
puts back what only the earlier one had named, and that this happens is
`disjoint_patches_clash`.
-/
import Roster.Field
import Roster.Proofs.Schedule
import Roster.Proofs.Service.Requests

namespace Roster

namespace Group

/-! ## The fields of a group -/

/-- The text of a field; a group need not have a description. -/
def text (g : Group) : Field → Option String
  | .name => some g.name
  | .slug => some g.slug
  | .description => g.description

/-- What a patch puts into a field, if it names it. -/
def Patch.text? (p : Patch) : Field → Option (Option String)
  | .name => p.name.map some
  | .slug => p.slug.map some
  | .description => p.description.map describe

/-- At some time, the patch makes the one group of the other. -/
def Patch.Makes (p : Patch) (old new : Group) : Prop :=
  new = { p.apply old with updateTime := new.updateTime }

variable {p : Patch} {old new : Group}

/-- **A patch changes the fields that it names**, and leaves the others as it has seen them. -/
theorem Patch.Makes.text (h : p.Makes old new) (f : Field) :
    new.text f = (p.text? f).getD (old.text f) := by
  rw [h]
  cases f with
  | name => cases hn : p.name <;> simp [Group.text, Patch.text?, Patch.apply, hn]
  | slug => cases hn : p.slug <;> simp [Group.text, Patch.text?, Patch.apply, hn]
  | description => cases hn : p.description <;> simp [Group.text, Patch.text?, Patch.apply, hn]

theorem Patch.Makes.id (h : p.Makes old new) : new.id = old.id := by
  rw [h]
  rfl

/-- Whatever the texts of `g` are by now, the patched group is stored as it was made. -/
theorem Patch.Makes.withTextsOf_eq {g : Group} (h : p.Makes old new) (hid : g.id = old.id)
    (hby : g.createdBy = old.createdBy) (htime : g.createTime = old.createTime) :
    Store.Memory.withTextsOf g new = new := by
  rw [h]
  simp only [Store.Memory.withTextsOf, Patch.apply, hid, hby, htime]

end Group

namespace Service

open Store (Call Memory)
open Store.Memory (SlugsKept)

/-! ## What a request for a patch asks -/

/-- A question that only looks. -/
def Looks : Ask → Prop
  | .store (.findGroup _) | .store (.findMember ..) | .clock => True
  | _ => False

/-- The request has seen the group under the slug. -/
def Saw (past : List Inquiry) (slug : String) (g : Group) : Prop :=
  ∃ s, Inquiry.ofCall (.findGroup slug) s ∈ past ∧ s.findGroup slug = some g

/-- A patch is written after nothing but looking, and to a group that was seen. -/
def Reworks (slug : String) (p : Group.Patch) (past : List Inquiry) (q : Ask) : Prop :=
  (∀ e ∈ past, Looks e.ask) ∧
    (Looks q ∨ ∃ seen g, q = .store (.updateGroup g) ∧ Saw past slug seen ∧ p.Makes seen g)

/-- A request for a patch ends well with the write. -/
def Reworked (past : List Inquiry) (o : Except Fault Group) : Prop :=
  ∀ g, o = .ok g → ∃ s rest, past = .ofCall (.updateGroup g) s :: rest ∧
    (Memory.answer (.updateGroup g) s).1 = .ok ()

variable {past past' : List Inquiry} {slug : String} {p : Group.Patch}

theorem Saw.cons {g : Group} (h : Saw past slug g) (e : Inquiry) : Saw (e :: past) slug g := by
  obtain ⟨s, hs, hg⟩ := h
  exact ⟨s, List.mem_cons_of_mem e hs, hg⟩

theorem reworked_error {f : Fault} : Reworked past (.error f) := nofun

theorem Looks.same {e : Inquiry} (he : e.Possible) (h : Looks e.ask) : e.after = e.before := by
  cases he with
  | clock now s => rfl
  | freshId s _ => rfl
  | call c s =>
      cases c with
      | findGroup | findMember => rfl
      | _ => exact h.elim

theorem abides_update (c : Caller) :
    Abides SlugsKept (Reworks slug p) Reworked (Groups.update c slug p) [] := by
  have hcons : ∀ {past : List Inquiry} {e : Inquiry}, (∀ d ∈ past, Looks d.ask) → Looks e.ask →
      ∀ d ∈ e :: past, Looks d.ask := by
    intro past e hpast he d hd
    rcases List.mem_cons.mp hd with rfl | hd
    · exact he
    · exact hpast d hd
  unfold Groups.update
  split
  · exact reworked_error
  · refine abides_requireLogin (fun u hu => ?_) reworked_error
    have hnil : ∀ e ∈ ([] : List Inquiry), Looks e.ask := fun e he => absurd he List.not_mem_nil
    refine abides_requireGroup ⟨hnil, .inl trivial⟩ (fun s seen _ hseen => ?_)
      fun _ _ => reworked_error
    have hfound : ∀ e ∈ [Inquiry.ofCall (.findGroup slug) s], Looks e.ask := hcons hnil trivial
    have hsaw : Saw [.ofCall (.findGroup slug) s] slug seen := ⟨s, List.mem_cons_self, hseen⟩
    -- Past the demand for a role, the time is asked for and the group is written.
    have hwrite : ∀ {past}, (∀ e ∈ past, Looks e.ask) → Saw past slug seen →
        Abides SlugsKept (Reworks slug p) Reworked
          (do
            let time ← now
            let changed := { p.apply seen with updateTime := time }
            call (.updateGroup changed)
            return changed) past := by
      intro past hpast hsaw
      refine abides_now ⟨hpast, .inl trivial⟩ fun time s _ => ?_
      refine abides_call ⟨hcons hpast trivial, .inr ⟨seen, _, rfl, hsaw.cons _, rfl⟩⟩ ?_
        fun _ _ _ _ => reworked_error
      intro s a _ hok g hg
      cases hg
      exact ⟨s, _, rfl, hok⟩
    refine abides_requireRole (fun _ => ⟨hfound, .inl trivial⟩) (fun _ => hwrite hfound hsaw)
      (fun id s m _ _ _ _ => ?_) fun _ _ => reworked_error
    exact hwrite (hcons hfound trivial) (hsaw.cons _)

/-! ## Two requests that write once -/

/-- The inquiries only looked, at stores with the property. -/
def Glances (S : Memory → Prop) (past : List Inquiry) : Prop :=
  ∀ e ∈ past, Looks e.ask ∧ S e.before

/-- How far two requests have come that look and then write: neither has written, or the first has,
to the store in which both began, or the second has as well, to the store that the first had left. -/
inductive Raced (s₀ : Memory) : List Inquiry → List Inquiry → Memory → Prop where
  | neither {past past' : List Inquiry} : Glances (· = s₀) past → Glances (· = s₀) past' →
      Raced s₀ past past' s₀
  | one {w : Inquiry} {rest past' : List Inquiry} : ¬ Looks w.ask → w.before = s₀ →
      Glances (· = s₀) rest → Glances (fun s => s = s₀ ∨ s = w.after) past' →
      Raced s₀ (w :: rest) past' w.after
  | both {w w' : Inquiry} {rest rest' : List Inquiry} : ¬ Looks w.ask → ¬ Looks w'.ask →
      w.before = s₀ → w'.before = w.after → Glances (· = s₀) rest →
      Glances (fun s => s = s₀ ∨ s = w.after) rest' → Raced s₀ (w :: rest) (w' :: rest') w'.after

section Race

variable {S : Memory → Prop} {s₀ : Memory} {e : Inquiry}

theorem glances_nil : Glances S [] := fun _ he => absurd he List.not_mem_nil

theorem Glances.cons (h : Glances S past) (he : Looks e.ask) (hS : S e.before) :
    Glances S (e :: past) := by
  intro d hd
  rcases List.mem_cons.mp hd with rfl | hd
  · exact ⟨he, hS⟩
  · exact h d hd

theorem Glances.imp {S' : Memory → Prop} (h : Glances S past) (himp : ∀ s, S s → S' s) :
    Glances S' past := fun e he => ⟨(h e he).1, himp _ (h e he).2⟩

/-- The turn of the one that writes first, or has not yet lost the race. -/
theorem Raced.turn_first {s : Memory} (h : Raced s₀ past past' s) (hs : e.before = s)
    (hpast : ∀ d ∈ past, Looks d.ask) (he : e.Possible) : Raced s₀ (e :: past) past' e.after := by
  cases h with
  | neither h h' =>
      by_cases hlook : Looks e.ask
      · rw [hlook.same he, hs]
        exact .neither (h.cons hlook hs) h'
      · exact .one hlook hs h (h'.imp fun _ => .inl)
  | one hw => exact absurd (hpast _ List.mem_cons_self) hw
  | both hw => exact absurd (hpast _ List.mem_cons_self) hw

/-- The turn of the one that writes second, unless it comes to be the first. -/
theorem Raced.turn_second {s : Memory} (h : Raced s₀ past past' s) (hs : e.before = s)
    (hpast' : ∀ d ∈ past', Looks d.ask) (he : e.Possible) :
    Raced s₀ past (e :: past') e.after ∨ Raced s₀ (e :: past') past e.after := by
  cases h with
  | neither h h' =>
      by_cases hlook : Looks e.ask
      · rw [hlook.same he, hs]
        exact .inl (.neither h (h'.cons hlook hs))
      · exact .inr (.one hlook hs h' (h.imp fun _ => .inl))
  | @one w rest _ hw hbefore h h' =>
      by_cases hlook : Looks e.ask
      · rw [hlook.same he, hs]
        exact .inl (.one hw hbefore h (h'.cons hlook (.inr hs)))
      · exact .inl (.both hw hlook hbefore hs h h')
  | both _ hw' => exact absurd (hpast' _ List.mem_cons_self) hw'

/-- Whichever of the two has its turn, the race goes on. -/
theorem Raced.turn {s : Memory} (h : Raced s₀ past past' s ∨ Raced s₀ past' past s)
    (hs : e.before = s) (hpast : ∀ d ∈ past, Looks d.ask) (he : e.Possible) :
    Raced s₀ (e :: past) past' e.after ∨ Raced s₀ past' (e :: past) e.after := by
  rcases h with h | h
  · exact .inl (h.turn_first hs hpast he)
  · exact (h.turn_second hs hpast he).symm

end Race

/-! ## Requests for patches in traffic -/

/-- What is known of the questions of a request for a patch, and nothing of other requests. -/
def Request.Patches : (r : Request) → List Inquiry → Ask → Prop
  | .updateGroup _ slug p => Reworks slug p
  | _ => fun _ _ => True

/-- What is known of the end of a request for a patch, and nothing of other requests. -/
def Request.Patched : (r : Request) → List Inquiry → Except Fault r.Result → Prop
  | .updateGroup .. => Reworked
  | _ => fun _ _ => True

theorem abides_patches (r : Request) : Abides SlugsKept r.Patches r.Patched r.plan [] := by
  cases r with
  | updateGroup c slug p => exact abides_update c
  | _ => exact abides_anything _

/-- Two requests for patches have just arrived. -/
def patching (s : Memory) (c₁ : Caller) (slug₁ : String) (p₁ : Group.Patch) (c₂ : Caller)
    (slug₂ : String) (p₂ : Group.Patch) : Traffic desk :=
  ⟨s, [.start (.updateGroup c₁ slug₁ p₁), .start (.updateGroup c₂ slug₂ p₂)]⟩

variable {s₀ : Memory} {c₁ c₂ : Caller} {slug₁ slug₂ : String} {p₁ p₂ : Group.Patch}

theorem heeded_of_patching (hs₀ : s₀.SlugsKept) {t : Traffic desk}
    (hrun : Relation.ReflTransGen Traffic.Step (patching s₀ c₁ slug₁ p₁ c₂ slug₂ p₂) t) :
    t.store.SlugsKept ∧ ∀ f ∈ t.flights, Heeded SlugsKept f.request.Patches f.past ∧
      Abides SlugsKept f.request.Patches f.request.Patched f.rest f.past := by
  refine Service.Traffic.abides (D := desk) (fun r => keeps_slugsKept _) abides_patches hrun hs₀ ?_
  refine List.forall_mem_cons.mpr ⟨⟨trivial, abides_patches _⟩, ?_⟩
  exact List.forall_mem_singleton.mpr ⟨trivial, abides_patches _⟩

/-- With two requests for patches and no other, one order of their turns is a race; a third
request that arrives never goes away again. -/
theorem raced_of_patching (hs₀ : s₀.SlugsKept) {t : Traffic desk}
    (hrun : Relation.ReflTransGen Traffic.Step (patching s₀ c₁ slug₁ p₁ c₂ slug₂ p₂) t) :
    2 < t.flights.length ∨ ∃ past₁ rest₁ past₂ rest₂,
      t.flights = [⟨.updateGroup c₁ slug₁ p₁, past₁, rest₁⟩,
        ⟨.updateGroup c₂ slug₂ p₂, past₂, rest₂⟩] ∧
      (Raced s₀ past₁ past₂ t.store ∨ Raced s₀ past₂ past₁ t.store) := by
  induction hrun with
  | refl => exact .inr ⟨[], _, [], _, rfl, .inl (.neither glances_nil glances_nil)⟩
  | @tail u v hbefore hstep ih =>
      obtain ⟨-, hflights⟩ := heeded_of_patching hs₀ hbefore
      cases hstep with
      | arrive s fs r =>
          left
          rcases ih with hmany | ⟨_, _, _, _, htwo, -⟩
          · exact Nat.lt_of_lt_of_le hmany (by simp)
          · rw [show fs = _ from htwo]
            simp
      | turn l r hturn =>
          rcases ih with hmany | ⟨past₁, rest₁, past₂, rest₂, htwo, hrace⟩
          · exact .inl (by simpa using hmany)
          · right
            cases hturn with
            | @answered q past e next he =>
                rcases List.append_eq_cons_iff.mp htwo with ⟨rfl, hone⟩ | ⟨l', rfl, hother⟩
                · -- The first of the two has its turn.
                  cases hone
                  obtain ⟨-, ⟨hlooks, -⟩, -⟩ := hflights _ List.mem_cons_self
                  exact ⟨_, _, _, _, rfl, Raced.turn hrace rfl hlooks he⟩
                · rcases List.append_eq_cons_iff.mp hother.symm with ⟨rfl, hone⟩ | ⟨l'', rfl, hnone⟩
                  · cases hone
                    obtain ⟨-, ⟨hlooks, -⟩, -⟩ := hflights _ (.tail _ List.mem_cons_self)
                    exact ⟨_, _, _, _, rfl, (Raced.turn hrace.symm rfl hlooks he).symm⟩
                  · exact absurd hnone (by simp)

/-! ## What is left of the two patches -/

/-- The group that is written is stored, in place of the one that was there. -/
theorem answer_updateGroup_ok {s : Memory} {g : Group}
    (h : (Memory.answer (.updateGroup g) s).1 = .ok ()) :
    ∃ old, s.groups.get? g.id = some old ∧
      (Memory.answer (.updateGroup g) s).2.groups.get? g.id = some (Memory.withTextsOf old g) := by
  simp only [Memory.answer, Memory.updateGroup] at h ⊢
  cases hold : s.groups.get? g.id with
  | none =>
      rw [hold] at h
      cases h
  | some old =>
      rw [hold] at h
      refine ⟨old, rfl, ?_⟩
      dsimp only at h ⊢
      split at h
      · next hsame =>
          rw [if_pos hsame]
          exact (Table.get?_insert ..).trans (if_pos rfl)
      · next hdiff =>
          split at h
          · cases h
          · next hfree =>
              rw [if_neg hdiff, if_neg hfree]
              exact (Table.get?_insert ..).trans (if_pos rfl)

/-- A group that a request saw, in a store that keeps its slugs, is there under its id. -/
theorem Saw.stored {past : List Inquiry} {slug : String} {g : Group} {S : Memory → Prop}
    (h : Saw past slug g) (hglances : Glances S past)
    (hkept : ∀ s, S s → s.SlugsKept) : ∃ s, S s ∧ s.groups.get? g.id = some g := by
  obtain ⟨s, hs, hg⟩ := h
  have hS : S s := (hglances _ hs).2
  exact ⟨s, hS, (hkept s hS).get?_of_findGroup hg⟩

/-- A request for a patch that has ended well has written, last of all, what its patch made of a
group that it had seen. -/
theorem written_of_done {c : Caller} {slug : String} {p : Group.Patch} {past : List Inquiry}
    {g : Group} (h : Heeded SlugsKept (Request.updateGroup c slug p).Patches past ∧
      Abides SlugsKept (Request.updateGroup c slug p).Patches
        (Request.updateGroup c slug p).Patched (.done g) past) :
    ∃ s rest seen, past = .ofCall (.updateGroup g) s :: rest ∧ s.SlugsKept ∧
      (Memory.answer (.updateGroup g) s).1 = .ok () ∧ Saw rest slug seen ∧ p.Makes seen g := by
  obtain ⟨hheeded, hends⟩ := h
  obtain ⟨s, rest, rfl, hok⟩ := hends g rfl
  obtain ⟨hs, -, ⟨-, hlook | ⟨seen, g', hq, hsaw, hmakes⟩⟩, -⟩ := hheeded
  · exact hlook.elim
  · cases hq
    exact ⟨s, rest, seen, rfl, hs, hok, hsaw, hmakes⟩

/-- The one patch made `g` of the group at the start.  The other one made `g'` of a group that its
request had seen, either before that or after it. -/
def LastWord (g₀ : Group) (p : Group.Patch) (g seen : Group) (p' : Group.Patch) (g' : Group) :
    Prop :=
  (seen = g₀ ∨ seen = g) ∧ (∀ f, g.text f = (p.text? f).getD (g₀.text f)) ∧
    ∀ f, g'.text f = (p'.text? f).getD (seen.text f)

/-- In a race that both have finished, the second one has the last word. -/
theorem lastWord_of_raced (hs₀ : s₀.SlugsKept) {s s' final : Memory} {g g' seen seen' : Group}
    {p p' : Group.Patch} {slug slug' : String} {rest rest' : List Inquiry}
    (h : Raced s₀ (.ofCall (.updateGroup g) s :: rest) (.ofCall (.updateGroup g') s' :: rest') final)
    (hok : (Memory.answer (.updateGroup g) s).1 = .ok ()) (hsaw : Saw rest slug seen)
    (hmakes : p.Makes seen g) (hok' : (Memory.answer (.updateGroup g') s').1 = .ok ())
    (hsaw' : Saw rest' slug' seen') (hmakes' : p'.Makes seen' g') (hsame : g.id = g'.id) :
    ∃ g₀, s₀.groups.get? g.id = some g₀ ∧ LastWord g₀ p g seen' p' g' ∧
      final.groups.get? g.id = some g' := by
  cases h with
  | neither h => exact (h _ List.mem_cons_self).1.elim
  | one _ _ _ h' => exact (h' _ List.mem_cons_self).1.elim
  | both _ _ hs hs' h h' =>
      obtain rfl : s = s₀ := hs
      obtain rfl : s' = (Memory.answer (.updateGroup g) s).2 := hs'
      have hs₁ : SlugsKept (Memory.answer (.updateGroup g) s).2 := Memory.answer_slugsKept _ hs₀
      -- The first one has seen the group at the start.
      obtain ⟨_, rfl, hseen⟩ := hsaw.stored h fun _ hS => hS ▸ hs₀
      rw [← hmakes.id] at hseen
      obtain ⟨old, hold, hstored⟩ := answer_updateGroup_ok hok
      cases hseen.symm.trans hold
      rw [hmakes.withTextsOf_eq rfl rfl rfl] at hstored
      -- The second one has seen that group, or what the first one made of it.
      have hwhich : seen' = seen ∨ seen' = g := by
        obtain ⟨s₂, hs₂, hseen'⟩ := hsaw'.stored h' fun _ hS => hS.elim (· ▸ hs₀) (· ▸ hs₁)
        rw [← hmakes'.id, ← hsame] at hseen'
        rcases hs₂ with rfl | rfl
        · exact .inl (Option.some.inj (hseen'.symm.trans hseen))
        · exact .inr (Option.some.inj (hseen'.symm.trans hstored))
      refine ⟨seen, hseen, ⟨hwhich, hmakes.text, hmakes'.text⟩, ?_⟩
      obtain ⟨old', hold', hstored'⟩ := answer_updateGroup_ok hok'
      rw [← hsame, hstored] at hold'
      cases hold'
      have hby : g.createdBy = seen'.createdBy ∧ g.createTime = seen'.createTime := by
        rcases hwhich with rfl | rfl
        · rw [hmakes]
          exact ⟨rfl, rfl⟩
        · exact ⟨rfl, rfl⟩
      rw [hmakes'.withTextsOf_eq (hsame.trans hmakes'.id) hby.1 hby.2, ← hsame] at hstored'
      exact hstored'

/-- **The later of two patches stands**, in full.  Two requests patch one group of a store that
traffic can reach, their questions in any order and no other request between them.  If both end
well, the group is stored as one of them was answered, and that one has made it of the group that
it had seen: as it was at the start, or as the other one had left it.  In each field that a patch
does not name, the value is the one that was seen. -/
theorem later_patch_stands {t : Traffic desk} (ht : t.Reached) {s : Memory}
    {past₁ past₂ : List Inquiry} {g₁ g₂ : Group}
    (hrun : Relation.ReflTransGen Traffic.Step (patching t.store c₁ slug₁ p₁ c₂ slug₂ p₂)
      ⟨s, [⟨.updateGroup c₁ slug₁ p₁, past₁, .done g₁⟩, ⟨.updateGroup c₂ slug₂ p₂, past₂, .done g₂⟩]⟩)
    (hsame : g₁.id = g₂.id) :
    ∃ g₀, t.store.groups.get? g₁.id = some g₀ ∧
      ((s.groups.get? g₁.id = some g₂ ∧ ∃ seen, Saw past₂ slug₂ seen ∧ LastWord g₀ p₁ g₁ seen p₂ g₂) ∨
       (s.groups.get? g₁.id = some g₁ ∧ ∃ seen, Saw past₁ slug₁ seen ∧ LastWord g₀ p₂ g₂ seen p₁ g₁)) := by
  have hs₀ : t.store.SlugsKept :=
    ht.store_inv Memory.slugsKept_empty fun c _ => Memory.answer_slugsKept c
  obtain ⟨-, hflights⟩ := heeded_of_patching hs₀ hrun
  obtain ⟨s₁, rest₁, seen₁, rfl, -, hok₁, hsaw₁, hmakes₁⟩ :=
    written_of_done (hflights _ List.mem_cons_self)
  obtain ⟨s₂, rest₂, seen₂, rfl, -, hok₂, hsaw₂, hmakes₂⟩ :=
    written_of_done (hflights _ (.tail _ List.mem_cons_self))
  rcases raced_of_patching hs₀ hrun with hmany | ⟨_, _, _, _, htwo, hrace⟩
  · exact absurd hmany (by simp)
  · cases htwo
    rcases hrace with hrace | hrace
    · obtain ⟨g₀, hg₀, hword, hstored⟩ :=
        lastWord_of_raced hs₀ hrace hok₁ hsaw₁ hmakes₁ hok₂ hsaw₂ hmakes₂ hsame
      exact ⟨g₀, hg₀, .inl ⟨hstored, seen₂, hsaw₂.cons _, hword⟩⟩
    · obtain ⟨g₀, hg₀, hword, hstored⟩ :=
        lastWord_of_raced hs₀ hrace hok₂ hsaw₂ hmakes₂ hok₁ hsaw₁ hmakes₁ hsame.symm
      rw [← hsame] at hg₀ hstored
      exact ⟨g₀, hg₀, .inr ⟨hstored, seen₁, hsaw₁.cons _, hword⟩⟩

/-! ## Two patches that name different fields -/

/-- A caller, who makes a group. -/
def ada : Caller := { id := some "ada" }

/-- The store with that group. -/
def lab : Memory := (alone (Groups.create ada ⟨"Lab", "lab", none⟩) default .counting).2.store

def rename : Group.Patch := { name := some "Laboratory" }

def describe : Group.Patch := { description := some "where we work" }

theorem reached_lab : ∃ flights, (⟨lab, flights⟩ : Traffic desk).Reached :=
  ⟨_, Traffic.Reached.alone (D := desk) .refl (.createGroup ada ⟨"Lab", "lab", none⟩)
    Supply.shaped_counting⟩

/-- What a schedule makes of the two patches. -/
def labAfter (schedule : List Nat) : Traffic desk :=
  (patching lab ada "lab" rename ada "lab" describe).play .counting schedule

theorem steps_labAfter (schedule : List Nat) : Relation.ReflTransGen Traffic.Step
    (patching lab ada "lab" rename ada "lab" describe) (labAfter schedule) :=
  Traffic.steps_play Supply.shaped_counting schedule _

/-- One patch after the other: the new description is put into what has the new name. -/
theorem description_stands_beside_name :
    ∃ past₁ past₂ g₁ g₂ g₀ seen, labAfter [0, 0, 0, 0, 1, 1, 1, 1] =
        ⟨(labAfter [0, 0, 0, 0, 1, 1, 1, 1]).store,
          [⟨.updateGroup ada "lab" rename, past₁, .done g₁⟩,
            ⟨.updateGroup ada "lab" describe, past₂, .done g₂⟩]⟩ ∧
      (labAfter [0, 0, 0, 0, 1, 1, 1, 1]).store.groups.get? g₁.id = some g₂ ∧
      Saw past₂ "lab" seen ∧ LastWord g₀ rename g₁ seen describe g₂ := by
  obtain ⟨flights, hlab⟩ := reached_lab
  obtain ⟨past₁, past₂, g₁, g₂, ht, hsame, hdescription⟩ : ∃ past₁ past₂ g₁ g₂,
      labAfter [0, 0, 0, 0, 1, 1, 1, 1] = ⟨(labAfter [0, 0, 0, 0, 1, 1, 1, 1]).store,
        [⟨.updateGroup ada "lab" rename, past₁, .done g₁⟩,
          ⟨.updateGroup ada "lab" describe, past₂, .done g₂⟩]⟩ ∧ g₁.id = g₂.id ∧
      ((labAfter [0, 0, 0, 0, 1, 1, 1, 1]).store.groups.get? g₁.id).map (·.text .description) ≠
        some (g₁.text .description) :=
    ⟨_, _, _, _, by rfl, by rfl, by decide⟩
  have hrun := steps_labAfter [0, 0, 0, 0, 1, 1, 1, 1]
  rw [ht] at hrun
  obtain ⟨g₀, -, ⟨hstored, seen, hsaw, hword⟩ | ⟨hstored, -⟩⟩ := later_patch_stands hlab hrun hsame
  · exact ⟨past₁, past₂, g₁, g₂, g₀, seen, ht, hstored, hsaw, hword⟩
  · exact absurd (congrArg (Option.map (·.text .description)) hstored) hdescription

/-- **Patches that name different fields may clash.**  Both requests look at the group before either
of them writes, and both are told that all went well.  The later one has put the old name back. -/
theorem disjoint_patches_clash :
    ¬ ∀ {t : Traffic desk}, t.Reached → ∀ {c₁ c₂ : Caller} {slug₁ slug₂ : String}
      {p₁ p₂ : Group.Patch} {s : Memory} {past₁ past₂ : List Inquiry} {g₁ g₂ : Group},
      Relation.ReflTransGen Traffic.Step (patching t.store c₁ slug₁ p₁ c₂ slug₂ p₂)
        ⟨s, [⟨.updateGroup c₁ slug₁ p₁, past₁, .done g₁⟩,
          ⟨.updateGroup c₂ slug₂ p₂, past₂, .done g₂⟩]⟩ →
      g₁.id = g₂.id → ¬ p₁.isEmpty → ¬ p₂.isEmpty → (∀ f, p₁.text? f = none ∨ p₂.text? f = none) →
      ∃ g, s.groups.get? g₁.id = some g ∧
        ∀ f v, p₁.text? f = some v ∨ p₂.text? f = some v → g.text f = v := by
  intro hall
  obtain ⟨flights, hlab⟩ := reached_lab
  obtain ⟨past₁, past₂, g₁, g₂, g, ht, hsame, hg, hname⟩ : ∃ past₁ past₂ g₁ g₂ g,
      labAfter [0, 0, 1, 1, 0, 0, 1, 1] = ⟨(labAfter [0, 0, 1, 1, 0, 0, 1, 1]).store,
        [⟨.updateGroup ada "lab" rename, past₁, .done g₁⟩,
          ⟨.updateGroup ada "lab" describe, past₂, .done g₂⟩]⟩ ∧ g₁.id = g₂.id ∧
      (labAfter [0, 0, 1, 1, 0, 0, 1, 1]).store.groups.get? g₁.id = some g ∧
        g.text .name = some "Lab" :=
    ⟨_, _, _, _, _, by rfl, by rfl, by rfl, by rfl⟩
  have hrun := steps_labAfter [0, 0, 1, 1, 0, 0, 1, 1]
  rw [ht] at hrun
  have hapart : ∀ f, rename.text? f = none ∨ describe.text? f = none := by
    intro f
    cases f with
    | name => exact .inr rfl
    | slug => exact .inr rfl
    | description => exact .inl rfl
  obtain ⟨g', hg', htexts⟩ := hall hlab hrun hsame (by decide) (by decide) hapart
  cases hg.symm.trans hg'
  have hnew : g.text .name = some "Laboratory" := htexts .name _ (.inl rfl)
  exact absurd (hname.symm.trans hnew) (by decide)

end Service

end Roster
