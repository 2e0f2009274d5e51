/-
# Writes of several documents

Five calls write several documents, each in one transaction.  What they send is a list of
commands (`Call.commands`), and for each answer it is fixed whether the call goes on or
fails, and with which failure (`fault?`).

That the code does so is a statement about its plans as trees (`StepByStep`), which holds
whatever is answered, by any server.  From it follows what is said from begin to end
(`conversation`): the commands up to the first failure and an abort, or all of them and a
commit.  Neither the answer to the abort nor anything else takes the place of the failure.
-/
import Roster.Proofs.Alone
import Roster.Proofs.Document.Hosts
import Roster.Store.Documents

namespace Roster

/-! ## Servers that keep transactions apart -/

namespace Document.Host

variable {σ : Type}

/-- The documents that are stored: while a transaction is open, those from before it. -/
def stored (H : Host σ) (w : σ) : Holdings := (H.saved w).getD (H.holds w)

/-- A transaction that is aborted or never committed leaves no trace: nothing that is sent within
it touches what is stored, and neither does the abort, whatever it is answered. -/
structure Isolates (H : Host σ) : Prop where
  within : ∀ c w, H.stored (H.answer (.within c) w).2 = H.stored w
  abort : ∀ w, H.stored (H.answer .abort w).2 = H.stored w

end Document.Host

namespace Store

open Document (Collection Command Refusal)

/-! ## What the calls are to send -/

/-- The call writes several documents. -/
def Call.WritesSeveral : Call → Prop
  | .insertGroup .. | .updateGroup _ | .deleteGroup _ | .upsertMembers .. | .insertUser _ => True
  | _ => False

/-- The command that sets or adds a membership. -/
def Documents.upsertion (m : Member) : Command :=
  .update .members (Documents.is "_id" m.id)
    [("role", .text m.role.name), ("update_time", .int m.updateTime)]
    (some [("group_id", .text m.groupId), ("user_id", .text m.userId),
      ("create_time", .int m.createTime)])

/-- The commands of the call, in order. -/
def Call.commands : Call → List Command
  | .insertGroup g owner =>
      [.insert .namespaces g.namespace.toDocument, .insert .groups g.toDocument,
       .insert .members owner.toDocument]
  | .updateGroup g =>
      [.update .namespaces (Documents.is "_id" g.id) [("slug", .text g.slug)] none,
       .update .groups (Documents.is "_id" g.id) (Documents.groupChanges g) none]
  | .deleteGroup id =>
      [.delete .groups (Documents.is "_id" id), .delete .namespaces (Documents.is "_id" id),
       .delete .members (Documents.is "group_id" id)]
  | .upsertMembers groupId members =>
      Documents.findOne .groups (Documents.is "_id" groupId) :: members.map Documents.upsertion
  | .insertUser u => [.insert .namespaces u.namespace.toDocument, .insert .users u.toDocument]
  | _ => []

/-- The conflict that a duplicate key in a collection tells of, if it is explained at all. -/
def Call.conflict? : Call → Collection → Option Fault
  | .insertGroup g _, .namespaces | .insertGroup g _, .groups => some (.slugTaken g.slug)
  | .updateGroup g, .namespaces | .updateGroup g, .groups => some (.slugTaken g.slug)
  | .insertUser u, .namespaces => some (.slugTaken u.slug)
  | .insertUser u, .users => some (.userIdTaken u.id)
  | _, _ => none

namespace Documents

open Document (Request Holdings Host)

/-- A command of a transaction with what the server answered. -/
structure Step where
  command : Command
  answer : Except Refusal command.Reply

/-- What is wrong with a reply, if anything is: the group is missing or cannot be read. -/
def objection? : Call → (q : Command) → q.Reply → Option Fault
  | .updateGroup g, .update .groups .., met => if met = 0 then some (.groupIdUnknown g.id) else none
  | .upsertMembers groupId _, .find .groups .., ds =>
      match ds.mapM Group.ofDocument? with
      | some groups => if groups.isEmpty then some (.groupIdUnknown groupId) else none
      | none => some .documentUnreadable
  | _, _, _ => none

/-- The failure of a step, if it has failed: a refusal is explained as a conflict where that is
what it tells of, and is a refusal otherwise. -/
def fault? (c : Call) : Step → Option Fault
  | ⟨q, .ok reply⟩ => objection? c q reply
  | ⟨q, .error e⟩ =>
      if e.isDuplicateKey then some ((c.conflict? q.collection).getD (refused e))
      else some (refused e)

/-- A refusal tells of a conflict if it has the code 11000, as a command or as a write. -/
theorem eq_of_fault?_of_refused {c : Call} {s : Step} {f : Fault} (h : fault? c s = some f)
    {e : Refusal} (he : s.answer = .error e) :
    f = if (e.kind = .write ∨ e.kind = .command) ∧ e.code = 11000 then
        (c.conflict? s.command.collection).getD (.commandRefused e.code)
      else .commandRefused e.code := by
  obtain ⟨q, answer⟩ := s
  obtain rfl : answer = .error e := he
  have hduplicate : e.isDuplicateKey ↔ (e.kind = .write ∨ e.kind = .command) ∧ e.code = 11000 := by
    simp [Refusal.isDuplicateKey, Refusal.duplicateCode]
  rw [fault?] at h
  split at h
  · next hcode =>
      rw [if_pos (hduplicate.mp hcode)]
      exact (Option.some.inj h).symm
  · next hcode =>
      rw [if_neg (mt hduplicate.mpr hcode)]
      exact (Option.some.inj h).symm

/-! ## What is said -/

/-- A request with its answer. -/
structure Sent where
  request : Request
  answer : request.Answer

/-- A step as it is sent: with the session of the transaction. -/
def Step.sent (s : Step) : Sent := ⟨.within s.command, s.answer⟩

section Conversation

variable {α β σ : Type} {answer : (q : Request) → σ → q.Answer × σ}

/-- All that is sent when the plan is carried out, in order. -/
def conversation (answer : (q : Request) → σ → q.Answer × σ) : Exchange α → σ → List Sent
  | .done _, _ => []
  | .fail _, _ => []
  | .ask q next, w =>
      ⟨q, (answer q w).1⟩ :: conversation answer (next (answer q w).1) (answer q w).2

theorem conversation_bind (p : Exchange α) (k : α → Exchange β) (w : σ) :
    conversation answer (p >>= k) w = conversation answer p w ++
      match p.run answer w with
      | (.ok a, w') => conversation answer (k a) w'
      | (.error _, _) => [] := by
  induction p generalizing w with
  | done a => rfl
  | fail f => rfl
  | ask q next ih => exact congrArg (List.cons _) (ih _ _)

theorem conversation_attempt (p : Exchange α) (w : σ) :
    conversation answer p.attempt w = conversation answer p w := by
  induction p generalizing w with
  | done a => rfl
  | fail f => rfl
  | ask q next ih => exact congrArg (List.cons _) (ih _ _)

/-- How a transaction ends that does its body from a state on: with an abort whose answer is not
looked at, or with a commit. -/
theorem transaction_ends (answer : (q : Request) → σ → q.Answer × σ) (body : Exchange α) (w : σ) :
    match body.run answer w with
    | (.error f, w') =>
        (transaction body).run answer w = (.error f, (answer .abort w').2) ∧
        conversation answer (transaction body) w =
          conversation answer body w ++ [⟨.abort, (answer .abort w').1⟩]
    | (.ok a, w') =>
        (transaction body).run answer w =
          ((answer .commit w').1.mapError refused |>.map fun _ => a, (answer .commit w').2) ∧
        conversation answer (transaction body) w =
          conversation answer body w ++ [⟨.commit, (answer .commit w').1⟩] := by
  unfold transaction
  rw [Plan.run_bind, conversation_bind, Plan.run_attempt, conversation_attempt]
  obtain ⟨o, w'⟩ := body.run answer w
  cases o with
  | error f => exact ⟨rfl, rfl⟩
  | ok a =>
      dsimp only [send, Plan.ask_bind, Plan.run, conversation]
      cases (answer .commit w').1 with
      | ok _ => exact ⟨rfl, rfl⟩
      | error e => exact ⟨rfl, rfl⟩

end Conversation

/-! ## Plans that go step by step -/

section Following

variable {α : Type} {fails : Step → Option Fault} {q : Command} {rest : List Command}

/-- The plan sends the commands in order, and fails as soon as a step fails. -/
def StepByStep (fails : Step → Option Fault) : List Command → Exchange α → Prop
  | [], p => ∃ a, p = .done a
  | q :: rest, p => ∃ next, p = .ask (.within q) next ∧ ∀ r, match fails ⟨q, r⟩ with
      | some f => next r = .fail f
      | none => StepByStep fails rest (next r)

theorem stepByStep_within {explain : Refusal → Fault} {k : q.Reply → Exchange α}
    (hrefused : ∀ e, fails ⟨q, .error e⟩ = some (explain e))
    (hreply : ∀ reply, match fails ⟨q, .ok reply⟩ with
      | some f => k reply = .fail f
      | none => StepByStep fails rest (k reply)) :
    StepByStep fails (q :: rest) (within q explain >>= k) := by
  refine ⟨_, rfl, fun r => ?_⟩
  cases r with
  | ok reply => exact hreply reply
  | error e =>
      rw [hrefused]
      rfl

/-- What can become of commands that are sent in order: one of them fails, and nothing is sent
after it, or all of them go well. -/
inductive Went (fails : Step → Option Fault) : List Command → List Sent → Except Fault α → Prop
  | failed (earlier : List Step) {step : Step} {later : List Command} {f : Fault}
      (hfine : ∀ s ∈ earlier, fails s = none) (hfails : fails step = some f) :
      Went fails (earlier.map Step.command ++ step.command :: later)
        ((earlier ++ [step]).map Step.sent) (.error f)
  | fine (steps : List Step) {a : α} (hfine : ∀ s ∈ steps, fails s = none) :
      Went fails (steps.map Step.command) (steps.map Step.sent) (.ok a)

/-- A step that goes well comes before the others. -/
theorem Went.cons {step : Step} {said : List Sent} {o : Except Fault α} (hstep : fails step = none)
    (h : Went fails rest said o) : Went fails (step.command :: rest) (step.sent :: said) o := by
  have hcons : ∀ {steps : List Step}, (∀ s ∈ steps, fails s = none) →
      ∀ s ∈ step :: steps, fails s = none :=
    fun hsteps => List.forall_mem_cons.mpr ⟨hstep, hsteps⟩
  cases h with
  | failed earlier hfine hfails => exact .failed (step :: earlier) (hcons hfine) hfails
  | fine steps hfine => exact .fine (step :: steps) (hcons hfine)

variable {σ : Type} {commands : List Command} {p : Exchange α}

theorem StepByStep.went (answer : (q : Request) → σ → q.Answer × σ)
    (h : StepByStep fails commands p) (w : σ) :
    Went fails commands (conversation answer p w) (p.run answer w).1 := by
  induction commands generalizing p w with
  | nil =>
      obtain ⟨a, rfl⟩ := h
      exact .fine [] nofun
  | cons q rest ih =>
      obtain ⟨next, rfl, hnext⟩ := h
      have hafter := hnext (answer (.within q) w).1
      simp only [Plan.run, conversation]
      cases hstep : fails ⟨q, (answer (.within q) w).1⟩ with
      | some f =>
          rw [hstep] at hafter
          rw [hafter]
          exact .failed [] nofun hstep
      | none =>
          rw [hstep] at hafter
          exact (ih hafter (answer (.within q) w).2).cons hstep

/-- What no command of a transaction touches is the same after all of them. -/
theorem StepByStep.same {γ : Type} {answer : (q : Request) → σ → q.Answer × σ} {stored : σ → γ}
    (hstored : ∀ c w, stored (answer (.within c) w).2 = stored w)
    (h : StepByStep fails commands p) (w : σ) : stored (p.run answer w).2 = stored w := by
  induction commands generalizing p w with
  | nil =>
      obtain ⟨a, rfl⟩ := h
      rfl
  | cons q rest ih =>
      obtain ⟨next, rfl, hnext⟩ := h
      have hafter := hnext (answer (.within q) w).1
      simp only [Plan.run]
      cases hstep : fails ⟨q, (answer (.within q) w).1⟩ with
      | some f =>
          rw [hstep] at hafter
          rw [hafter]
          exact hstored q w
      | none =>
          rw [hstep] at hafter
          exact (ih hafter (answer (.within q) w).2).trans (hstored q w)

/-! ## The bodies of the transactions -/

theorem stepByStep_done (a : α) : StepByStep fails [] (.done a) := ⟨a, rfl⟩

/-- A command that is the last one of its plan. -/
theorem stepByStep_last {explain : Refusal → Fault}
    (hrefused : ∀ e, fails ⟨q, .error e⟩ = some (explain e))
    (hreply : ∀ reply, fails ⟨q, .ok reply⟩ = none) : StepByStep fails [q] (within q explain) := by
  rw [← Plan.bind_done (within q explain)]
  refine stepByStep_within hrefused fun reply => ?_
  rw [hreply]
  exact stepByStep_done reply

end Following

section Bodies

variable {c : Call} {q : Command} {e : Refusal}

theorem fault?_of_conflict {f : Fault} (h : c.conflict? q.collection = some f) :
    fault? c ⟨q, .error e⟩ = some (duplicate f e) := by
  rw [fault?, duplicate, h]
  split <;> rfl

theorem fault?_of_no_conflict (h : c.conflict? q.collection = none) :
    fault? c ⟨q, .error e⟩ = some (refused e) := by
  rw [fault?, h]
  split <;> rfl

theorem stepByStep_upsertEach {groupId : String} {all : List Member} (members : List Member) :
    StepByStep (fault? (.upsertMembers groupId all))
      (members.map upsertion) (upsertEach members) := by
  induction members with
  | nil => exact stepByStep_done ()
  | cons m rest ih =>
      rw [upsertEach, upsertMember, Plan.bind_assoc]
      exact stepByStep_within (fun _ => fault?_of_no_conflict rfl) fun _ => ih

/-- **The code of each call sends the commands of the call**, and fails as it should, whatever it
is answered. -/
theorem exists_body (hc : c.WritesSeveral) :
    ∃ body, plan c = transaction body ∧ StepByStep (fault? c) c.commands body := by
  cases c with
  | insertGroup g owner =>
      refine ⟨_, rfl, ?_⟩
      refine stepByStep_within (fun _ => fault?_of_conflict rfl) fun _ => ?_
      refine stepByStep_within (fun _ => fault?_of_conflict rfl) fun _ => ?_
      exact stepByStep_last (fun _ => fault?_of_no_conflict rfl) fun _ => rfl
  | updateGroup g =>
      refine ⟨_, rfl, ?_⟩
      refine stepByStep_within (fun _ => fault?_of_conflict rfl) fun _ => ?_
      refine stepByStep_within (fun _ => fault?_of_conflict rfl) fun met => ?_
      by_cases hmet : met = 0
      · simp only [fault?, objection?, if_pos hmet]
      · simp only [fault?, objection?, if_neg hmet]
        exact stepByStep_done ()
  | deleteGroup id =>
      refine ⟨_, rfl, ?_⟩
      refine stepByStep_within (fun _ => fault?_of_no_conflict rfl) fun _ => ?_
      refine stepByStep_within (fun _ => fault?_of_no_conflict rfl) fun _ => ?_
      exact stepByStep_within (fun _ => fault?_of_no_conflict rfl) fun _ => stepByStep_done _
  | upsertMembers groupId members =>
      refine ⟨_, rfl, ?_⟩
      refine stepByStep_within (fun _ => fault?_of_no_conflict rfl) fun ds => ?_
      simp only [fault?, findOne, objection?, decode]
      cases ds.mapM Group.ofDocument? with
      | none => rfl
      | some groups =>
          by_cases hmissing : groups.isEmpty
          · simp only [Plan.done_bind, if_pos hmissing]
          · simp only [Plan.done_bind, if_neg hmissing]
            exact stepByStep_upsertEach members
  | insertUser u =>
      refine ⟨_, rfl, ?_⟩
      refine stepByStep_within (fun _ => fault?_of_conflict rfl) fun _ => ?_
      exact stepByStep_last (fun _ => fault?_of_conflict rfl) fun _ => rfl
  | _ => exact hc.elim

end Bodies

/-- **Writes of several documents happen as a whole or not at all**, on any server and in any of its
states.  Either a step fails, then nothing is sent after it but an abort, the call fails with the
failure of that step, whatever the abort is answered, and what is stored is as before.  A refusal is
told as a conflict if it is one of duplicate keys, which has the code 11000.  Or no step
fails, then all commands are sent with the session of the transaction and one commit after them,
and the call succeeds if and only if the commit does. -/
theorem several_written_as_a_whole {σ : Type} {H : Host σ} (hH : H.Isolates) (w : σ) {c : Call}
    (hc : c.WritesSeveral) :
    let outcome := ((plan c).run H.answer w).1
    let left := ((plan c).run H.answer w).2
    let said := conversation H.answer (plan c) w
    (∃ (earlier : List Step) (step : Step) (later : List Command) (f : Fault)
        (reply : Request.abort.Answer),
      c.commands = earlier.map Step.command ++ step.command :: later ∧
      (∀ s ∈ earlier, fault? c s = none) ∧ fault? c step = some f ∧
      (∀ e, step.answer = .error e → f =
        if (e.kind = .write ∨ e.kind = .command) ∧ e.code = 11000 then
          (c.conflict? step.command.collection).getD (.commandRefused e.code)
        else .commandRefused e.code) ∧
      said = (earlier ++ [step]).map Step.sent ++ [⟨.abort, reply⟩] ∧
      outcome = .error f ∧ H.stored left = H.stored w) ∨
    ∃ (steps : List Step) (reply : Request.commit.Answer),
      c.commands = steps.map Step.command ∧ (∀ s ∈ steps, fault? c s = none) ∧
      said = steps.map Step.sent ++ [⟨.commit, reply⟩] ∧
      match reply with
      | .ok _ => ∃ a, outcome = .ok a
      | .error e => outcome = .error (refused e) := by
  intro outcome left said
  obtain ⟨body, hplan, hsteps⟩ := exists_body hc
  have hwent := hsteps.went H.answer w
  have hstored := hsteps.same hH.within w
  have hends := transaction_ends H.answer body w
  rw [← hplan] at hends
  generalize body.run H.answer w = done at hwent hstored hends
  generalize conversation H.answer body w = sent at hwent hends
  generalize c.commands = commands at hwent
  obtain ⟨o, w'⟩ := done
  cases hwent with
  | failed earlier hfine hfails =>
      obtain ⟨hend, hsaid⟩ := hends
      refine .inl ⟨earlier, _, _, _, (H.answer .abort w').1, rfl, hfine, hfails, ?_, hsaid,
        congrArg Prod.fst hend, ?_⟩
      · intro e he
        exact eq_of_fault?_of_refused hfails he
      rw [← hstored, ← hH.abort w']
      exact congrArg (fun r => H.stored r.2) hend
  | fine steps hfine =>
      obtain ⟨hend, hsaid⟩ := hends
      refine .inr ⟨steps, (H.answer .commit w').1, rfl, hfine, hsaid, ?_⟩
      simp only [outcome, hend]
      cases (H.answer .commit w').1 with
      | ok _ => exact ⟨_, rfl⟩
      | error e => rfl

/-! ## A server that refuses -/

/-- The server of the rehearsals with refusals to come, each in the place of the answer to one
request.  A transaction whose abort is refused stays open. -/
def refusing : Host (Document.Server × List (Option Refusal)) where
  answer q w := match w with
    | (s, some e :: rest) =>
        (.error e, (match q with | .within _ => s.opened | _ => s, rest))
    | (s, rest) => ((s.answer q).1, ((s.answer q).2, rest.tail))
  holds w := w.1.contents.holds
  saved w := w.1.saved.map Document.Contents.holds

theorem refusing_isolates : refusing.Isolates where
  within c w := by
    obtain ⟨⟨contents, saved⟩, refusals⟩ := w
    match refusals with
    | [] | none :: _ | some _ :: _ => cases saved <;> rfl
  abort w := by
    obtain ⟨⟨contents, saved⟩, refusals⟩ := w
    match refusals with
    | [] | none :: _ | some _ :: _ => cases saved <;> rfl

/-- The second insertion is refused, and so is the abort; the failure is that of the insertion, a
conflict if the key is there already, and nothing is stored of the namespace, which was inserted. -/
theorem namespace_not_stored_without_user :
    let user : User := { id := "ada", slug := "ada" }
    let ended := fun refusal : Refusal => (plan (.insertUser user)).run refusing.answer
      ({}, [none, some refusal, some ⟨.other, 0⟩])
    (ended ⟨.command, 112⟩).1 = .error (.commandRefused 112) ∧
      (ended ⟨.write, 11000⟩).1 = .error (.userIdTaken "ada") ∧
      ∀ refusal, refusing.stored (ended refusal).2 = fun _ => 0 := by
  intro user ended
  refine ⟨rfl, rfl, fun refusal => ?_⟩
  let refusals : List (Option Refusal) := [none, some refusal, some ⟨.other, 0⟩]
  have hlast : (conversation refusing.answer (plan (.insertUser user)) ({}, refusals)).getLast?.map
      Sent.request = some .abort := by rfl
  rcases several_written_as_a_whole refusing_isolates ({}, refusals) (c := .insertUser user)
      trivial with
    ⟨earlier, step, later, f, reply, -, -, -, -, -, -, hstored⟩ | ⟨steps, reply, -, -, hsaid, -⟩
  · refine hstored.trans ?_
    funext c
    cases c <;> rfl
  · rw [hsaid] at hlast
    simp at hlast

end Documents

end Store

end Roster
