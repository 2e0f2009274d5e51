/-
# What a failed request leaves behind

Nothing.  No service writes before its last look: whatever can go wrong is found out
first, and then there is one write, with nothing after it that could fail.  The one
service that goes on after a write lists the namespaces of a caller whom it has just
registered, and all that it asks from there on is answered.

The statement is about a plan in any traffic (`failsIdle_plan`): if it fails, none of
its own questions has changed the store.  A write that fails is no write
(`answer_error`), so it is enough to follow the code as far as the one that succeeds.
-/
import Roster.Proofs.Service.Rights

namespace Roster.Service

open Store (Call Memory)
open Request (untouched_cons)

/-- A call that fails leaves the store as it was. -/
theorem answer_error {c : Call} {s : Memory} {f : Fault} (h : (Memory.answer c s).1 = .error f) :
    (Memory.answer c s).2 = s := by
  have hwritten : ∀ {r : Except Fault Memory}, (s.written r).1 = .error f → (s.written r).2 = s := by
    intro r hr
    cases r with
    | ok s' => cases hr
    | error g => rfl
  cases c with
  | insertGroup g owner => exact hwritten h
  | updateGroup g => exact hwritten h
  | upsertMembers groupId members => exact hwritten h
  | insertUser u => exact hwritten h
  | deleteGroup id => cases h
  | deleteMember groupId userId => cases h
  | updateProfile u => cases h
  | countGroups | pageGroups | findGroup | listMembers | findMember | countMemberGroups
  | pageMemberGroups | findUser | findUsers | listUsers | findNamespace => rfl

/-! ## Plans that fail before they write -/

section Plans

variable {α β : Type} {past : List Inquiry}

/-- If the plan fails, nothing was changed by what it has asked. -/
abbrev FailsIdle (p : Service α) (past : List Inquiry) : Prop :=
  Abides (fun _ => True) (fun _ _ => True) (fun past o => ∀ f, o = .error f → Untouched past) p past

/-- The plan does not fail. -/
abbrev NeverFails (p : Service α) (past : List Inquiry) : Prop :=
  Abides (fun _ => True) (fun _ _ => True) (fun _ o => ∀ f, o ≠ .error f) p past

theorem NeverFails.failsIdle {p : Service α} (h : NeverFails p past) : FailsIdle p past :=
  h.imp fun _ _ hends f hf => absurd hf (hends f)

theorem failsIdle_done (a : α) : FailsIdle (.done a) past := nofun

theorem failsIdle_fail (f : Fault) (h : Untouched past) : FailsIdle (.fail f : Service α) past :=
  fun _ _ => h

/-- A look leaves the plan where it was. -/
theorem failsIdle_look {c : Call} {k : c.Answer → Service α} (hlook : ∀ s, (Memory.answer c s).2 = s)
    (hpast : Untouched past) (hk : ∀ a past, Untouched past → FailsIdle (k a) past) :
    FailsIdle (call c >>= k) past := by
  have hcons : ∀ s, Untouched (.ofCall c s :: past) := fun s => untouched_cons (hlook s) hpast
  exact abides_call trivial (fun s a _ _ => hk a _ (hcons s)) fun s _ _ _ _ _ => hcons s

/-- A write that fails has changed nothing, and after one that succeeds the plan must not fail. -/
theorem failsIdle_write {c : Call} {k : c.Answer → Service α} (hpast : Untouched past)
    (hk : ∀ a past, NeverFails (k a) past) : FailsIdle (call c >>= k) past := by
  refine abides_call trivial (fun s a _ _ => (hk a _).failsIdle) fun s f _ hf _ _ => ?_
  exact untouched_cons (answer_error hf) hpast

/-- A call that the store always answers. -/
theorem neverFails_call {c : Call} {k : c.Answer → Service α}
    (hok : ∀ s f, (Memory.answer c s).1 ≠ .error f) (hk : ∀ a past, NeverFails (k a) past) :
    NeverFails (call c >>= k) past :=
  abides_call trivial (fun _ a _ _ => hk a _) fun s f _ hf => absurd hf (hok s f)

theorem failsIdle_requireLogin {c : Caller} {k : String → Service α} (hpast : Untouched past)
    (hk : ∀ id, FailsIdle (k id) past) : FailsIdle (requireLogin c >>= k) past :=
  abides_requireLogin (fun id _ => hk id) fun _ _ => hpast

theorem failsIdle_requireGroup {slug : String} {k : Group → Service α} (hpast : Untouched past)
    (hk : ∀ g past, Untouched past → FailsIdle (k g) past) :
    FailsIdle (requireGroup slug >>= k) past :=
  abides_requireGroup trivial (fun _ g _ _ => hk g _ (untouched_cons rfl hpast))
    fun _ _ _ _ => untouched_cons rfl hpast

theorem failsIdle_requireRole {g : Group} {c : Caller} {minimum : Role} {k : Unit → Service α}
    (hpast : Untouched past) (hk : ∀ past, Untouched past → FailsIdle (k ()) past) :
    FailsIdle (requireRole g c minimum >>= k) past := by
  unfold requireRole
  rw [Plan.bind_assoc]
  refine failsIdle_requireLogin hpast fun id => ?_
  split
  · exact hk past hpast
  · rw [Plan.bind_assoc]
    refine failsIdle_look (fun _ => rfl) hpast fun found past hpast => ?_
    cases found with
    | none => exact failsIdle_fail _ hpast
    | some m =>
        dsimp only
        split
        · exact hk past hpast
        · exact failsIdle_fail _ hpast

end Plans

/-! ## The services -/

variable {past : List Inquiry}

theorem failsIdle_create (c : Caller) (draft : Group.Draft) (hpast : Untouched past) :
    FailsIdle (Groups.create c draft) past := by
  unfold Groups.create
  refine failsIdle_requireLogin hpast fun u => ?_
  refine abides_now trivial fun time s _ => ?_
  refine abides_freshId trivial fun id s' _ _ => ?_
  exact failsIdle_write (untouched_cons rfl (untouched_cons rfl hpast)) fun _ _ => nofun

theorem failsIdle_update (c : Caller) (slug : String) (patch : Group.Patch)
    (hpast : Untouched past) : FailsIdle (Groups.update c slug patch) past := by
  unfold Groups.update
  split
  · exact failsIdle_fail _ hpast
  · refine failsIdle_requireLogin hpast fun u => ?_
    refine failsIdle_requireGroup hpast fun g past hpast => ?_
    refine failsIdle_requireRole hpast fun past hpast => ?_
    refine abides_now trivial fun time s _ => ?_
    exact failsIdle_write (untouched_cons rfl hpast) fun _ _ => nofun

theorem failsIdle_delete (c : Caller) (slug : String) (hpast : Untouched past) :
    FailsIdle (Groups.delete c slug) past := by
  unfold Groups.delete
  refine failsIdle_requireLogin hpast fun u => ?_
  refine failsIdle_look (fun _ => rfl) hpast fun found past hpast => ?_
  cases found with
  | none => exact failsIdle_done _
  | some g =>
      refine failsIdle_requireRole hpast fun past hpast => ?_
      exact failsIdle_write hpast fun _ _ => nofun

theorem failsIdle_updateMembers (c : Caller) (slug : String) (changes : List Member.Change)
    (hpast : Untouched past) : FailsIdle (Members.update c slug changes) past := by
  unfold Members.update
  refine failsIdle_requireLogin hpast fun u => ?_
  refine failsIdle_requireGroup hpast fun g past hpast => ?_
  refine failsIdle_requireRole hpast fun past hpast => ?_
  dsimp only
  split
  · exact failsIdle_done _
  · refine abides_now trivial fun time s _ => ?_
    exact failsIdle_write (untouched_cons rfl hpast) fun _ _ => nofun

theorem failsIdle_removeMember (c : Caller) (slug userId : String) (hpast : Untouched past) :
    FailsIdle (Members.remove c slug userId) past := by
  unfold Members.remove
  refine failsIdle_requireLogin hpast fun u => ?_
  refine failsIdle_requireGroup hpast fun g past hpast => ?_
  by_cases hown : u = userId
  · simp only [ne_eq, hown, not_true_eq_false, if_false]
    exact failsIdle_write hpast fun _ _ => nofun
  · simp only [ne_eq, hown, not_false_eq_true, if_true]
    refine failsIdle_requireRole hpast fun past hpast => ?_
    exact failsIdle_write hpast fun _ _ => nofun

/-- A caller is not registered only if all its attempts were in vain. -/
theorem failsIdle_ensure (c : Caller) (hpast : Untouched past) :
    FailsIdle (Users.ensure c) past := by
  unfold Users.ensure
  refine failsIdle_requireLogin hpast fun u => ?_
  refine failsIdle_look (fun _ => rfl) hpast fun existing past hpast => ?_
  cases existing with
  | some user => exact abides_refresh_of (fun _ _ _ => trivial) nofun fun _ _ _ _ => nofun
  | none =>
      refine abides_register_of (J := fun _ past => Untouched past) (fun _ _ _ => trivial) ?_ ?_ ?_
        ?_ ?_ ?_ hpast
      · exact fun left past e hpast he => untouched_cons he hpast
      · exact fun attempt left past e hpast _ _ => hpast
      · exact fun attempt left past d e hpast _ _ => hpast
      · exact fun past s slug namespaceId time _ _ => nofun
      · exact fun past s u _ _ => nofun
      · exact fun past hpast f _ => hpast

/-- The caller may just have been registered, but what is asked after that is always answered. -/
theorem failsIdle_listNamespaces (c : Caller) (page : Page.Request) (minimum : Option Role)
    (hpast : Untouched past) : FailsIdle (Namespaces.list c page minimum) past := by
  unfold Namespaces.list
  refine failsIdle_requireLogin hpast fun u => ?_
  refine abides_bind.mpr ((failsIdle_ensure c hpast).imp fun past o hends => ?_)
  cases o with
  | error f => exact fun _ _ => hends f rfl
  | ok own =>
      refine NeverFails.failsIdle ?_
      refine neverFails_call nofun fun count past => ?_
      dsimp only
      split
      · exact nofun
      · exact neverFails_call nofun fun _ _ => nofun

theorem failsIdle_getNamespace (slug : String) (hpast : Untouched past) :
    FailsIdle (Namespaces.get slug) past := by
  unfold Namespaces.get
  refine failsIdle_look (fun _ => rfl) hpast fun found past hpast => ?_
  cases found with
  | none => exact failsIdle_fail _ hpast
  | some n =>
      dsimp only
      split
      · refine failsIdle_look (fun _ => rfl) hpast fun found past hpast => ?_
        cases found with
        | none => exact failsIdle_fail _ hpast
        | some g => exact failsIdle_done _
      · split
        · exact failsIdle_fail _ hpast
        · refine failsIdle_look (fun _ => rfl) hpast fun found past hpast => ?_
          cases found with
          | none => exact failsIdle_fail _ hpast
          | some u => exact failsIdle_done _

/-- **A request that fails has changed nothing**, whatever the others do. -/
theorem failsIdle_plan (r : Request) (hpast : Untouched past) : FailsIdle r.plan past := by
  cases r with
  | listGroups page =>
      refine failsIdle_look (fun _ => rfl) hpast fun total past hpast => ?_
      exact failsIdle_look (fun _ => rfl) hpast fun _ _ _ => failsIdle_done _
  | createGroup c draft => exact failsIdle_create c draft hpast
  | getGroup slug =>
      show FailsIdle (requireGroup slug) past
      rw [← Plan.bind_done (requireGroup slug)]
      exact failsIdle_requireGroup hpast fun _ _ _ => failsIdle_done _
  | updateGroup c slug patch => exact failsIdle_update c slug patch hpast
  | deleteGroup c slug => exact failsIdle_delete c slug hpast
  | listMembers slug =>
      refine failsIdle_requireGroup hpast fun g past hpast => ?_
      refine failsIdle_look (fun _ => rfl) hpast fun members past hpast => ?_
      exact failsIdle_look (fun _ => rfl) hpast fun _ _ _ => failsIdle_done _
  | updateMembers c slug changes => exact failsIdle_updateMembers c slug changes hpast
  | removeMember c slug userId => exact failsIdle_removeMember c slug userId hpast
  | listNamespaces c page minimum => exact failsIdle_listNamespaces c page minimum hpast
  | getNamespace slug => exact failsIdle_getNamespace slug hpast
  | ensureUser c => exact failsIdle_ensure c hpast
  | getUser id =>
      refine failsIdle_look (fun _ => rfl) hpast fun found past hpast => ?_
      cases found with
      | none => exact failsIdle_fail _ hpast
      | some u => exact failsIdle_done _
  | listUsers email =>
      show FailsIdle (call (.listUsers email)) past
      rw [← Plan.bind_done (call (.listUsers email))]
      exact failsIdle_look (fun _ => rfl) hpast fun _ _ _ => failsIdle_done _

end Roster.Service
