/-
# Exchanges with a document server

An exchange is a plan of requests, and what can be said of it whatever a lawful server
replies is `Ensures`: a statement about the plan as a tree, over the documents that are
there and those that an abort would bring back.  It is proved along the code of the
store with one rule for each way of asking (`ensures_within`, `ensures_transaction`),
and it holds of the plan carried out on any lawful host (`Ensures.run`).
-/
import Roster.Proofs.Alone
import Roster.Proofs.Document.Hosts
import Roster.Store.Documents

namespace Roster.Store.Documents

open Document (Collection Command Refusal Request Holdings Carries Placed Clashes Host Filter)

variable {α β : Type}

/-- What an exchange may end with: its outcome, the documents, and those from before the
transaction, if one is open. -/
abbrev Ending (α : Type) := Except Fault α → Holdings → Option Holdings → Prop

/-- Whatever a lawful server replies, the exchange ends as it may end. -/
def Ensures (post : Ending α) : Exchange α → Holdings → Option Holdings → Prop
  | .done a, now, before => post (.ok a) now before
  | .fail f, now, before => post (.error f) now before
  | .ask (.single c) next, now, before =>
      before = none ∧ ∀ r now', Carries c now r now' → Ensures post (next r) now' none
  | .ask (.within c) next, now, before =>
      ∀ r now', Carries c now r now' → Ensures post (next r) now' (some (before.getD now))
  | .ask .commit next, now, before => before.isSome ∧ Ensures post (next (.ok ())) now none
  | .ask .abort next, _, before => ∃ back, before = some back ∧
      ∀ r, Ensures post (next r) back none

/-- **What an exchange ensures happens on every lawful host.** -/
theorem Ensures.run {σ : Type} {H : Host σ} (hH : H.Lawful) {post : Ending α} {p : Exchange α}
    {w : σ} (h : Ensures post p (H.holds w) (H.saved w)) :
    post (p.run H.answer w).1 (H.holds (p.run H.answer w).2) (H.saved (p.run H.answer w).2) := by
  induction p generalizing w with
  | done a => exact h
  | fail f => exact h
  | ask q next ih =>
      refine ih (H.answer q w).1 (w := (H.answer q w).2) ?_
      cases q with
      | single c =>
          obtain ⟨hnone, hnext⟩ := h
          obtain ⟨hcarries, hsaved⟩ := hH.single c w hnone
          rw [hsaved]
          exact hnext _ _ hcarries
      | within c =>
          obtain ⟨hcarries, hsaved⟩ := hH.within c w
          rw [hsaved]
          exact h _ _ hcarries
      | commit =>
          obtain ⟨hopen, hnext⟩ := h
          obtain ⟨hreply, hholds, hsaved⟩ := hH.commit w hopen
          rw [hreply, hholds, hsaved]
          exact hnext
      | abort =>
          obtain ⟨back, hback, hnext⟩ := h
          obtain ⟨hholds, hsaved⟩ := hH.abort w (hback ▸ rfl)
          rw [hback] at hholds
          rw [Option.some.inj hholds, hsaved]
          exact hnext _

theorem Ensures.run_alone {σ : Type} {H : Host σ} (hH : H.Lawful) {post : Ending α}
    {p : Exchange α} {w : σ} (hsaved : H.saved w = none) (h : Ensures post p (H.holds w) none) :
    post (p.run H.answer w).1 (H.holds (p.run H.answer w).2) (H.saved (p.run H.answer w).2) := by
  rw [← hsaved] at h
  exact h.run hH

section Rules

variable {now : Holdings} {before : Option Holdings}

theorem ensures_bind {post : Ending β} {p : Exchange α} {k : α → Exchange β} :
    Ensures post (p >>= k) now before ↔
      Ensures (fun o now before => match o with
        | .ok a => Ensures post (k a) now before
        | .error f => post (.error f) now before) p now before := by
  induction p generalizing now before with
  | done a => exact Iff.rfl
  | fail f => exact Iff.rfl
  | ask q next ih =>
      cases q with
      | single c =>
          exact and_congr_right fun _ => forall_congr' fun r => forall_congr' fun now' =>
            imp_congr_right fun _ => ih r
      | within c =>
          exact forall_congr' fun r => forall_congr' fun now' => imp_congr_right fun _ => ih r
      | commit => exact and_congr_right fun _ => ih _
      | abort =>
          exact exists_congr fun back => and_congr_right fun _ => forall_congr' fun r => ih r

theorem ensures_attempt {post : Ending (Except Fault α)} {p : Exchange α} :
    Ensures post p.attempt now before ↔
      Ensures (fun o => post (.ok o)) p now before := by
  induction p generalizing now before with
  | done a => exact Iff.rfl
  | fail f => exact Iff.rfl
  | ask q next ih =>
      cases q with
      | single c =>
          exact and_congr_right fun _ => forall_congr' fun r => forall_congr' fun now' =>
            imp_congr_right fun _ => ih r
      | within c =>
          exact forall_congr' fun r => forall_congr' fun now' => imp_congr_right fun _ => ih r
      | commit => exact and_congr_right fun _ => ih _
      | abort =>
          exact exists_congr fun back => and_congr_right fun _ => forall_congr' fun r => ih r

theorem Ensures.imp {post post' : Ending α} {p : Exchange α} (h : Ensures post p now before)
    (himp : ∀ o now before, post o now before → post' o now before) :
    Ensures post' p now before := by
  induction p generalizing now before with
  | done a => exact himp _ _ _ h
  | fail f => exact himp _ _ _ h
  | ask q next ih =>
      cases q with
      | single c => exact ⟨h.1, fun r now' hr => ih r (h.2 r now' hr)⟩
      | within c => exact fun r now' hr => ih r (h r now' hr)
      | commit => exact ⟨h.1, ih _ h.2⟩
      | abort =>
          obtain ⟨back, hback, hnext⟩ := h
          exact ⟨back, hback, fun r => ih r (hnext r)⟩

/-- A command that stands alone, outside of any transaction. -/
theorem ensures_single {post : Ending β} {c : Command} {k : c.Reply → Exchange β}
    (h : ∀ r now', Carries c now r now' → match r with
      | .ok a => Ensures post (k a) now' none
      | .error e => post (.error (refused e)) now' none) :
    Ensures post (single c >>= k) now none := by
  refine ⟨rfl, fun r now' hr => ?_⟩
  have hends := h r now' hr
  cases r with
  | ok a => exact hends
  | error e => exact hends

/-- A command of a transaction. -/
theorem ensures_within {post : Ending β} {c : Command} {explain : Refusal → Fault}
    {k : c.Reply → Exchange β}
    (h : ∀ r now', Carries c now r now' → match r with
      | .ok a => Ensures post (k a) now' (some (before.getD now))
      | .error e => post (.error (explain e)) now' (some (before.getD now))) :
    Ensures post (within c explain >>= k) now before := by
  intro r now' hr
  have hends := h r now' hr
  cases r with
  | ok a => exact hends
  | error e => exact hends

/-- **A transaction happens as a whole or not at all.**  What its body does counts if the body
ends well; if not, all is as before, and the failure is that of the body. -/
theorem ensures_transaction {post : Ending α} {body : Exchange α}
    (h : Ensures (fun o now' before => before = some now ∧ match o with
      | .ok a => post (.ok a) now' none
      | .error f => post (.error f) now none) body now none) :
    Ensures post (transaction body) now none := by
  unfold transaction
  rw [ensures_bind, ensures_attempt]
  refine h.imp fun o now' before hends => ?_
  obtain ⟨rfl, hpost⟩ := hends
  cases o with
  | ok a => exact ⟨rfl, hpost⟩
  | error f => exact ⟨now, rfl, fun _ => hpost⟩

/-- A document that is put beside others within a transaction: it clashes with one of them, or
it is there. -/
theorem ensures_placed {post : Ending β} {c : Command} {explain : Refusal → Fault}
    {k : c.Reply → Exchange β} {collection : Collection} {d : Document}
    {others : Multiset Document} {reply : c.Reply}
    (hplaced : ∀ r now', Carries c now r now' → Placed collection now d others reply r now')
    (hclash : Clashes collection d others → ∀ e now', e.isDuplicateKey →
      post (.error (explain e)) now' (some (before.getD now)))
    (hfree : ¬ Clashes collection d others →
      Ensures post (k reply) (Function.update now collection (d ::ₘ others))
        (some (before.getD now))) :
    Ensures post (within c explain >>= k) now before := by
  refine ensures_within fun r now' hr => ?_
  rcases hplaced r now' hr with ⟨hd, e, rfl, he⟩ | ⟨hd, rfl, rfl⟩
  · exact hclash hd e now' he
  · exact hfree hd

end Rules

end Roster.Store.Documents
