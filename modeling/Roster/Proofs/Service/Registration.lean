/-
# Registering in traffic

A caller is registered at first sight, and between the look that misses the user and
the write that adds it anybody may do anything: register the same user, take the slug,
give it up again.  Two things make this safe.

* What a user is registered with stays (`standing`): no call takes a user away, and
  none changes its slug, its namespace or the time of its creation.  So whoever has
  seen the record, or written it, has seen what will be there for good.
* A conflict is looked into.  If the user is still not there after it, nobody has
  registered it, and so the conflict was over the slug, which somebody had in use
  (`Registered`, carried from attempt to attempt by `abides_register_of`).
-/
import Roster.Proofs.Schedule
import Roster.Proofs.Service.Requests
import Roster.Proofs.Store.Users

namespace Roster

/-- What a user is registered with, for good. -/
def User.standing (u : User) : String × String × Int := (u.slug, u.namespaceId, u.createTime)

namespace Store.Memory

/-- The users of one store are in the other, as they were registered. -/
def UsersStay (s s' : Memory) : Prop :=
  ∀ id u, s.users.get? id = some u → ∃ u', s'.users.get? id = some u' ∧ u'.standing = u.standing

variable {s s' s'' : Memory}

theorem UsersStay.refl (s : Memory) : s.UsersStay s := fun _ u hu => ⟨u, hu, rfl⟩

theorem UsersStay.trans (h : s.UsersStay s') (h' : s'.UsersStay s'') : s.UsersStay s'' := by
  intro id u hu
  obtain ⟨u', hu', he⟩ := h id u hu
  obtain ⟨u'', hu'', he'⟩ := h' id u' hu'
  exact ⟨u'', hu'', he'.trans he⟩

theorem UsersStay.of_eq (h : s'.users = s.users) : s.UsersStay s' :=
  fun _ u hu => ⟨u, h ▸ hu, rfl⟩

/-- A user is put only where there was none, or where there was one with the same standing. -/
theorem usersStay_insert {id : String} {u : User} {ns : Table Namespace}
    (hold : ∀ old, s.users.get? id = some old → u.standing = old.standing) :
    s.UsersStay { s with namespaces := ns, users := s.users.insert id u } := by
  intro k old hk
  by_cases he : k = id
  · subst he
    exact ⟨u, by simp, hold old hk⟩
  · exact ⟨old, by simpa [he] using hk, rfl⟩

theorem OnlyUser.usersStay {id : String} (h : s.OnlyUser id s') : s.UsersStay s' := by
  cases h with
  | same => exact .refl s
  | @profile u firstName lastName email updateTime hu =>
      refine @usersStay_insert s _ _ s.namespaces fun old hold => ?_
      cases hu.symm.trans hold
      rfl
  | added hid hnew hslug =>
      refine usersStay_insert fun old hold => ?_
      cases hnew.symm.trans hold

/-- **No call takes a user away**, or changes what it was registered with. -/
theorem answer_usersStay (c : Call) (s : Memory) : s.UsersStay (answer c s).2 := by
  cases hc : c.user? with
  | none => exact .of_eq (answer_users hc s)
  | some id => exact (answer_onlyUser hc s).usersStay

end Store.Memory

namespace Service

open Store (Call Memory)
open Store.Memory (SlugsKept UsersStay)

/-! ## What a registration has seen -/

/-- At some question of the past, a group or a user had the slug. -/
def SeenInUse (past : List Inquiry) (slug : String) : Prop :=
  ∃ e ∈ past, ∃ p, e.before.Has p ∧ p.slug = slug

/-- How a registration may end, as far as the users have stayed in the meantime: with a record that
was in the store, or in vain after each of its slugs was seen in use. -/
def Registered (c : Caller) (id : String) (past : List Inquiry) (o : Except Fault User) : Prop :=
  Drifted UsersStay past → match o with
    | .ok user => user.id = id ∧
        ∃ e ∈ past, ∃ stored, e.after.users.get? id = some stored ∧ stored.standing = user.standing
    | .error f => f = .noSlugLeft id ∧ ∀ attempt ∈ List.range' 1 Users.maxAttempts,
        SeenInUse past (Users.candidate (Users.slugBase c id) attempt)

/-- Each attempt is left to be made, or its slug was seen in use. -/
def Attempted (base : String) (left : List Nat) (past : List Inquiry) : Prop :=
  Drifted UsersStay past → ∀ attempt ∈ List.range' 1 Users.maxAttempts,
    attempt ∈ left ∨ SeenInUse past (Users.candidate base attempt)

variable {c : Caller} {id base slug : String} {past : List Inquiry} {left : List Nat}

theorem SeenInUse.cons (h : SeenInUse past slug) (e : Inquiry) : SeenInUse (e :: past) slug := by
  obtain ⟨d, hd, hp⟩ := h
  exact ⟨d, List.mem_cons_of_mem e hd, hp⟩

/-- A slug with an entry is in use. -/
theorem seenInUse_of_contains {e : Inquiry} (he : e ∈ past) (hs : e.before.SlugsKept)
    (hslug : e.before.namespaces.contains slug) : SeenInUse past slug := by
  obtain ⟨n, hn⟩ := Table.contains_iff.mp hslug
  obtain ⟨p, hp, hpslug, -⟩ := hs.party_of_entry hn
  exact ⟨e, he, p, hp, hpslug⟩

theorem Attempted.cons (h : Attempted base left past) (e : Inquiry) :
    Attempted base left (e :: past) := by
  intro hdrift attempt hattempt
  exact (h hdrift.of_cons attempt hattempt).imp_right fun hseen => hseen.cons e

/-- The next attempt is over when its slug was seen in use. -/
theorem Attempted.next {attempt : Nat} (h : Attempted base (attempt :: left) past)
    (hseen : SeenInUse past (Users.candidate base attempt)) : Attempted base left past := by
  intro hdrift a ha
  rcases h hdrift a ha with hleft | hold
  · rcases List.mem_cons.mp hleft with rfl | hleft
    · exact .inr hseen
    · exact .inl hleft
  · exact .inr hold

theorem answer_insertUser_ok {s : Memory} {u : User}
    (h : (Memory.answer (.insertUser u) s).1 = .ok ()) :
    (Memory.answer (.insertUser u) s).2.users.get? u.id = some u := by
  simp only [Memory.answer, Memory.insertUser] at h ⊢
  split at h
  · cases h
  · next hslug =>
      split at h
      · cases h
      · next hid =>
          rw [if_neg hslug, if_neg hid]
          exact (Table.get?_insert ..).trans (if_pos rfl)

/-- **A registration ends well, or all its slugs were in use**, whatever the others do. -/
theorem registered_ensure (hid : c.id = some id) :
    Abides SlugsKept (fun _ _ => True) (Registered c id) (Users.ensure c) [] := by
  have hknown : ∀ past s u, SlugsKept s → s.users.get? id = some u →
      Registered c id (.ofCall (.findUser id) s :: past) (.ok u) := by
    intro past s u hs hu hdrift
    exact ⟨hs.users hu, _, List.mem_cons_self, u, hu, rfl⟩
  unfold Users.ensure requireLogin
  rw [hid, Plan.done_bind]
  refine abides_call trivial (fun s existing hs hexisting => ?_) nofun
  cases hexisting
  cases hfound : s.users.get? id with
  | some u =>
      refine abides_refresh_of (fun _ _ _ => trivial) (hknown [] s u hs hfound) ?_
      -- The profile is written over, but what was found has the same standing.
      intro s' s'' time changed hdrift
      have hthere : Inquiry.ofCall (.findUser id) s ∈
          [.ofCall (.updateProfile changed) s'', ⟨.clock, time, s', s'⟩,
            .ofCall (.findUser id) s] := by
        simp
      exact ⟨show u.id = id from hs.users hfound, _, hthere, u, hfound, rfl⟩
  | none =>
      refine abides_register_of (J := Attempted (Users.slugBase c id)) (fun _ _ _ => trivial)
        ?_ ?_ ?_ ?_ hknown ?_ ?_
      · exact fun left past e h _ => h.cons e
      · exact fun attempt left past e h hs hslug =>
          h.next (seenInUse_of_contains List.mem_cons_self hs hslug)
      · intro attempt left past d e h hthere hgone hdrift
        -- The user was there at the conflict, and users stay.
        obtain ⟨u, hu⟩ := Table.contains_iff.mp hthere
        obtain ⟨u', hu', -⟩ := List.rel_of_pairwise_cons hdrift List.mem_cons_self id u hu
        exact absurd (hu'.symm.trans hgone) nofun
      · intro past s slug namespaceId time hs hok hdrift
        exact ⟨rfl, _, List.mem_cons_self, _, answer_insertUser_ok hok, rfl⟩
      · intro past h hdrift
        refine ⟨rfl, fun attempt hattempt => ?_⟩
        exact (h hdrift attempt hattempt).resolve_left List.not_mem_nil
      · exact fun _ attempt hattempt => .inl hattempt

/-! ## A registration comes to an end -/

theorem asksAtMost_call {α : Type} {call' : Call} {k : call'.Answer → Service α} {n : Nat}
    (hk : ∀ a, AsksAtMost (k a) n) : AsksAtMost (call call' >>= k) (n + 1) := by
  refine ⟨Nat.succ_pos n, fun a => ?_⟩
  cases a with
  | ok a => exact hk a
  | error f => trivial

/-- Five questions for each attempt. -/
theorem asksAtMost_register (c : Caller) (id base : String) (attempts : List Nat) :
    AsksAtMost (Users.register c id base attempts) (5 * attempts.length) := by
  induction attempts with
  | nil => trivial
  | cons attempt rest ih =>
      have hlater : ∀ {n}, 5 * rest.length ≤ n →
          AsksAtMost (Users.register c id base rest) n := fun hn => ih.mono hn
      unfold Users.register
      rw [List.length_cons, Nat.mul_succ]
      refine asksAtMost_call (n := 5 * rest.length + 4) fun found => ?_
      cases found with
      | some n => exact hlater (Nat.le_add_right _ 4)
      | none =>
          refine ⟨Nat.succ_pos _, fun time => ⟨Nat.succ_pos _, fun namespaceId =>
            ⟨Nat.succ_pos _, fun o => ?_⟩⟩⟩
          cases o with
          | ok _ => trivial
          | error f =>
              show AsksAtMost (if f.kind = .conflict then _ else _) _
              split
              · refine asksAtMost_call (n := 5 * rest.length) fun existing => ?_
                cases existing with
                | some u => trivial
                | none => exact ih
              · trivial

theorem asksAtMost_ensure (c : Caller) : AsksAtMost (Users.ensure c) 101 := by
  unfold Users.ensure requireLogin
  split
  · next id _ =>
      refine asksAtMost_call (n := 100) fun existing => ?_
      cases existing with
      | some u =>
          show AsksAtMost (Users.refresh u c) 100
          unfold Users.refresh
          split
          · trivial
          · exact ⟨by decide, fun time => asksAtMost_call (n := 98) fun _ => trivial⟩
      | none => exact asksAtMost_register c id _ (List.range' 1 Users.maxAttempts)
  · trivial

/-! ## Registrations in traffic -/

/-- What is known of the requests that register a caller, and nothing of the others. -/
def Request.Ends : (r : Request) → List Inquiry → Except Fault r.Result → Prop
  | .ensureUser c, past, o => ∀ id, c.id = some id → Registered c id past o
  | _, _, _ => True

theorem abides_ends (r : Request) :
    Abides SlugsKept (fun _ _ => True) r.Ends r.plan [] := by
  cases r with
  | ensureUser c =>
      cases hid : c.id with
      | none =>
          show Abides _ _ _ (Users.ensure c) []
          unfold Users.ensure requireLogin
          rw [hid]
          exact fun id hsome => absurd (hid.symm.trans hsome) nofun
      | some id =>
          refine (registered_ensure hid).imp fun past o h id' hid' => ?_
          cases hid.symm.trans hid'
          exact h
  | _ => exact abides_anything _

theorem Traffic.Reached.ends {t : Traffic desk} (ht : t.Reached) :
    ∀ f ∈ t.flights, Abides SlugsKept (fun _ _ => True) f.request.Ends f.rest f.past := by
  have hkeeps : ∀ r : Request, Keeps SlugsKept fun (_ : List Inquiry) (_ : Ask) => True :=
    fun _ => keeps_slugsKept _
  exact fun f hf => ((ht.abides (D := desk) Memory.slugsKept_empty hkeeps abides_ends).2 f hf).2

/-- A registration that has ended well has seen what is in the store from then on. -/
theorem Traffic.Reached.registered {t t' : Traffic desk} (ht : t.Reached)
    (hlater : Relation.ReflTransGen Traffic.Step t t') (hid : c.id = some id) {user : User}
    (hf : ⟨.ensureUser c, past, .done user⟩ ∈ t.flights) :
    user.id = id ∧
      ∃ stored, t'.store.users.get? id = some stored ∧ stored.standing = user.standing := by
  obtain ⟨hdrift, hnow⟩ := ht.drifted UsersStay.refl UsersStay.trans Memory.answer_usersStay _ hf
  obtain ⟨huser, e, he, seen, hseen, hstanding⟩ := ht.ends _ hf id hid hdrift
  have hstay : UsersStay t.store t'.store :=
    Traffic.moves hlater UsersStay.refl UsersStay.trans Memory.answer_usersStay
  obtain ⟨stored, hstored, hsame⟩ := ((hnow e he).trans hstay) id seen hseen
  exact ⟨huser, stored, hstored, hsame.trans hstanding⟩

/-- **All registrations of a user agree, for good.**  In any traffic, a caller with an id is
answered after at most 101 questions: with a record of its own, of which the store keeps slug,
namespace and time of creation from then on, and with which every other answer for the same id
agrees; or with the failure that no slug was left, and then each of the twenty slugs was in use
when one of the questions was asked. -/
theorem registrations_agree {t : Traffic desk} (ht : t.Reached) {c : Caller} {id : String}
    (hid : c.id = some id) {past : List Inquiry} {rest : Service User}
    (hf : ⟨.ensureUser c, past, rest⟩ ∈ t.flights) :
    past.length ≤ 101 ∧
    match rest with
    | .ask _ _ => past.length < 101
    | .done user => user.id = id ∧
        (∀ t', Relation.ReflTransGen Traffic.Step t t' →
          ∃ stored, t'.store.users.get? id = some stored ∧ stored.slug = user.slug ∧
            stored.namespaceId = user.namespaceId ∧ stored.createTime = user.createTime) ∧
        ∀ (c' : Caller) (past' : List Inquiry) (user' : User), c'.id = some id →
          ⟨.ensureUser c', past', .done user'⟩ ∈ t.flights → user'.slug = user.slug ∧
            user'.namespaceId = user.namespaceId ∧ user'.createTime = user.createTime
    | .fail f => f = .noSlugLeft id ∧ f.kind = .internal ∧
        ∀ attempt ∈ List.range' 1 20, ∃ e ∈ past, ∃ p, e.before.Has p ∧
          p.slug = Users.candidate (Users.slugBase c id) attempt := by
  have hapart : ∀ {u v : User}, u.standing = v.standing →
      u.slug = v.slug ∧ u.namespaceId = v.namespaceId ∧ u.createTime = v.createTime := by
    intro u v h
    simpa only [User.standing, Prod.mk.injEq] using h
  obtain ⟨hlength, hrest⟩ := ht.asksAtMost _ hf 101 (asksAtMost_ensure c)
  refine ⟨hlength, ?_⟩
  cases rest with
  | ask q next => exact Nat.lt_of_sub_pos hrest.1
  | done user =>
      refine ⟨(ht.registered .refl hid hf).1, fun t' hlater => ?_, fun c' past' user' hid' hf' => ?_⟩
      · obtain ⟨-, stored, hstored, hsame⟩ := ht.registered hlater hid hf
        exact ⟨stored, hstored, hapart hsame⟩
      · -- Both records agree with the one that is stored now.
        obtain ⟨-, stored, hstored, hsame⟩ := ht.registered .refl hid hf
        obtain ⟨-, stored', hstored', hsame'⟩ := ht.registered .refl hid' hf'
        cases hstored.symm.trans hstored'
        exact hapart (hsame'.symm.trans hsame)
  | fail f =>
      obtain ⟨hdrift, -⟩ := ht.drifted UsersStay.refl UsersStay.trans Memory.answer_usersStay _ hf
      obtain ⟨rfl, hseen⟩ := ht.ends _ hf id hid hdrift
      exact ⟨rfl, rfl, hseen⟩

/-- Two registrations of one user meet: both find nobody, each finds its own slug free, and the
second of them is told of the first. -/
theorem second_registration_told_of_first :
    let first : Caller := { id := some "ada", email := some "ada@lab" }
    let second : Caller := { id := some "ada", email := some "lovelace@lab" }
    let t := Traffic.play .counting [0, 1, 0, 1, 0, 0, 0, 1, 1, 1, 1]
      (⟨{}, [.start (.ensureUser first), .start (.ensureUser second)]⟩ : Traffic desk)
    ∃ past user, ⟨.ensureUser second, past, .done user⟩ ∈ t.flights ∧ user.slug = "ada" ∧
      ∃ stored, t.store.users.get? "ada" = some stored ∧ stored.slug = user.slug := by
  intro first second t
  have hreached : t.Reached := by
    refine Relation.ReflTransGen.trans ?_ (Traffic.steps_play Supply.shaped_counting _ _)
    exact (Relation.ReflTransGen.refl.tail (.arrive {} [] _)).tail (.arrive {} [_] _)
  obtain ⟨past, user, hf, hslug⟩ : ∃ past user,
      ⟨.ensureUser second, past, .done user⟩ ∈ t.flights ∧ user.slug = "ada" :=
    ⟨_, _, .tail _ (.head _), by rfl⟩
  obtain ⟨-, -, hkept, -⟩ := registrations_agree hreached (c := second) rfl hf
  obtain ⟨stored, hstored, hsame, -⟩ := hkept t .refl
  exact ⟨past, user, hf, hslug, stored, hstored, hsame⟩

end Service

end Roster
