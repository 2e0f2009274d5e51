/-
# Two stores, one behaviour

The service runs on a store in memory or on one that keeps its records on a document
server, and it cannot tell which.  Every call that the services make is answered alike
by both, and afterwards the documents of the server are the records in memory
(`Mirrors`).  One call is `ensures_plan`, put together from the lookups and the writes;
calls one after the other are `stores_answer_alike`, by induction over the calls.
-/
import Roster.Proofs.Store.Writes

namespace Roster.Store

open Document (Host)

/-- The same outcome.  Users that are looked for by their ids are found as a set: the server puts
them in order, and says each of them once. -/
def Call.Agree : (c : Call) → Except Fault c.Answer → Except Fault c.Answer → Prop
  | .findUsers _, .ok found, .ok found' => ∀ u, u ∈ found ↔ u ∈ found'
  | _, o, o' => o = o'

namespace Documents

open Document (Holdings)

section Calls

variable {now : Holdings} {s : Memory} {past : List Call}

/-- **One call is answered alike**, and leaves the same records. -/
theorem ensures_plan (hm : Mirrors now s) (hs : s.Kept) (hids : s.Brought past) {c : Call}
    (hc : c.Served past) :
    Ensures (fun o now' before => c.Agree o (Memory.answer c s).1 ∧
      Mirrors now' (Memory.answer c s).2 ∧ before = none) (plan c) now none := by
  have hfinds : ∀ {α : Type} {p : Exchange α} {a : α}, Ensures (Finds now a) p now none →
      Ensures (fun o now' before => o = .ok a ∧ Mirrors now' s ∧ before = none) p now none := by
    intro α p a h
    refine h.imp fun o now' before hends => ?_
    obtain ⟨rfl, rfl, rfl⟩ := hends
    exact ⟨rfl, hm, rfl⟩
  cases c with
  | countGroups => exact hfinds (finds_countGroups hm)
  | pageGroups skip limit =>
      have hpage := @finds_pageGroups now s skip limit hm hs (.inr hc.2.1)
      rw [sentLimit_of_lt hc.2.2] at hpage
      exact hfinds hpage
  | findGroup slug => exact hfinds (finds_findGroup hm hs slug)
  | insertGroup g owner => exact follows_insertGroup hm hs hids hc.1.1 hc.1.2 hc.2
  | updateGroup g => exact follows_updateGroup hm hs hids hc.2
  | deleteGroup id => exact follows_deleteGroup hm hs hids hc.2
  | listMembers groupId => exact hfinds (finds_listMembers hm hs groupId)
  | findMember groupId userId => exact hfinds (finds_findMember hm hs groupId userId)
  | upsertMembers groupId members => exact follows_upsertMembers hm hs hc.1
  | deleteMember groupId userId => exact follows_deleteMember hm hs groupId userId
  | countMemberGroups userId roles => exact hfinds (finds_countMemberGroups hm userId roles)
  | pageMemberGroups userId roles skip limit =>
      have hpage :=
        @finds_pageMemberGroups now s skip limit hm hs userId roles (.inr (.inr hc.2.1))
      rw [sentLimit_of_lt hc.2.2] at hpage
      exact hfinds hpage
  | findUser id => exact hfinds (finds_findUser hm hs id)
  | findUsers ids =>
      refine (finds_findUsers hm hs ids).imp fun o now' before hends => ?_
      obtain ⟨rfl, rfl, rfl⟩ := hends
      exact ⟨fun u => mem_usersAmong hs.slugs, hm, rfl⟩
  | listUsers email => exact hfinds (finds_listUsers hm hs email)
  | insertUser u => exact follows_insertUser hm hs hids hc.2
  | updateProfile u => exact follows_updateProfile hm hs u
  | findNamespace slug => exact hfinds (finds_findNamespace hm hs slug)

/-- Setting up the indexes changes no documents. -/
theorem ensures_setUp : Ensures (Finds now ()) setUp now none := by
  have hnext : ∀ {c : Document.Collection} {k : Exchange Unit}, Ensures (Finds now ()) k now none →
      Ensures (Finds now ()) (single (.createIndexes c c.indexes) >>= fun _ => k) now none := by
    intro c k hk
    refine ensures_single fun r now' hr => ?_
    obtain ⟨rfl, rfl⟩ := hr
    exact hk
  exact hnext (hnext (hnext (hnext ⟨rfl, rfl, rfl⟩)))

end Calls

end Documents

/-! ## Calls one after the other -/

/-- Each of the calls is one that the services make after those before it. -/
def ServedFrom (past : List Call) : List Call → Prop
  | [] => True
  | c :: calls => c.Served past ∧ ServedFrom (past ++ [c]) calls

theorem Call.Served.newTo {past : List Call} {c : Call} (h : c.Served past)
    {kind : Namespace.Kind} {id : String} (hbrings : c.brings? = some (kind, id)) :
    NewTo past id := by
  cases c with
  | insertGroup g owner =>
      cases hbrings
      exact h.2
  | insertUser u =>
      cases hbrings
      exact h.2
  | _ => cases hbrings

/-- What brings in one id brings it in for one kind of namespace. -/
theorem ServedFrom.kind_eq {past calls : List Call} (h : ServedFrom past calls)
    (hpast : ∀ c ∈ past, ∀ d ∈ past, ∀ k l id,
      c.brings? = some (k, id) → d.brings? = some (l, id) → k = l) :
    ∀ c ∈ past ++ calls, ∀ d ∈ past ++ calls, ∀ k l id,
      c.brings? = some (k, id) → d.brings? = some (l, id) → k = l := by
  induction calls generalizing past with
  | nil =>
      rw [List.append_nil]
      exact hpast
  | cons b calls ih =>
      rw [List.append_cons]
      refine ih h.2 fun c hc d hd k l id hck hdl => ?_
      -- The last call brings in an id that none before it has brought in.
      rcases List.mem_append.mp hc with hc | hc
      · rcases List.mem_append.mp hd with hd | hd
        · exact hpast c hc d hd k l id hck hdl
        · cases List.mem_singleton.mp hd
          exact absurd hck (h.1.newTo hdl c hc k)
      · cases List.mem_singleton.mp hc
        rcases List.mem_append.mp hd with hd | hd
        · exact absurd hdl (h.1.newTo hck d hd l)
        · cases List.mem_singleton.mp hd
          exact congrArg Prod.fst (Option.some.inj (hck.symm.trans hdl))

/-- **A group that was found may be changed and deleted** from then on: what has its id is not the
namespace of a user. -/
theorem ServedFrom.not_user_of_found {calls earlier later : List Call} (h : ServedFrom [] calls)
    (hcalls : calls = earlier ++ later) {slug : String} {g : Group}
    (hg : (Memory.after {} earlier).findGroup slug = some g) :
    ∀ d ∈ calls, d.brings? ≠ some (.user, g.id) := by
  have hslugs : (Memory.after {} earlier).SlugsKept :=
    Memory.after_slugsKept earlier Memory.slugsKept_empty
  have hparty : (Memory.after {} earlier).Has (.group g) := hslugs.get?_of_findGroup hg
  obtain ⟨c, hc, hbrings⟩ := Memory.after_brought Memory.slugsKept_empty Memory.brought_empty
    earlier (hslugs.entry_of_party hparty)
  intro d hd huser
  have hthere : c ∈ calls := hcalls ▸ List.mem_append_left later hc
  have hkind : Namespace.Kind.group = .user :=
    h.kind_eq (fun _ hc => absurd hc List.not_mem_nil) c hthere d hd _ _ _ hbrings huser
  cases hkind

/-- The document server that calls leave, one after the other. -/
def hostAfter {σ : Type} (H : Host σ) (w : σ) (calls : List Call) : σ :=
  calls.foldl (fun w c => ((Documents.plan c).run H.answer w).2) w

section Stores

variable {σ : Type} {H : Host σ}

/-- From a moment at which both stores hold the same records, with no transaction open. -/
theorem alike_from (hH : H.Lawful) {calls : List Call} {past : List Call} {w : σ} {s : Memory}
    (hsaved : H.saved w = none) (hm : Mirrors (H.holds w) s) (hs : s.Kept) (hids : s.Brought past)
    (hserved : ServedFrom past calls) :
    (∀ earlier c later, calls = earlier ++ c :: later →
      c.Agree ((Documents.plan c).run H.answer (hostAfter H w earlier)).1
        (Memory.answer c (s.after earlier)).1) ∧
    ∀ earlier later, calls = earlier ++ later →
      Mirrors (H.holds (hostAfter H w earlier)) (s.after earlier) := by
  -- One call leads from such a moment to the next: its records are mirrored again, the transaction
  -- is closed, and what is in the store was brought in by the calls so far.
  induction calls generalizing past w s with
  | nil =>
      constructor
      · intro earlier c later h
        exact absurd h.symm (by simp)
      · intro earlier later h
        obtain ⟨rfl, rfl⟩ := List.append_eq_nil_iff.mp h.symm
        exact hm
  | cons c calls ih =>
      obtain ⟨hc, hrest⟩ := hserved
      obtain ⟨hagree, hm', hsaved'⟩ :=
        (Documents.ensures_plan hm hs hids hc).run_alone hH hsaved
      obtain ⟨hagrees, hmirrors⟩ := ih hsaved' hm' (Memory.answer_kept hc.1 hs)
        (Memory.answer_brought hs.slugs hids c) hrest
      constructor
      · intro earlier d later h
        rcases List.append_eq_cons_iff.mp h.symm with ⟨rfl, hd⟩ | ⟨earlier', rfl, hd⟩
        · cases hd
          exact hagree
        · exact hagrees earlier' d later hd
      · intro earlier later h
        rcases List.append_eq_cons_iff.mp h.symm with ⟨rfl, -⟩ | ⟨earlier', rfl, hd⟩
        · exact hm
        · exact hmirrors earlier' later hd

/-- A host that held no documents holds those of the records in memory after the same calls. -/
theorem mirrors_hostAfter (hH : H.Lawful) {w : σ} (hempty : ∀ c, H.holds w c = 0)
    (hsaved : H.saved w = none) {calls : List Call} (hserved : ServedFrom [] calls) :
    Mirrors (H.holds (hostAfter H w calls)) (Memory.after {} calls) :=
  (alike_from hH hsaved (.empty hempty) Memory.kept_empty Memory.brought_empty hserved).2 calls []
    (List.append_nil calls).symm

/-- The server of the rehearsals can hold the records that calls leave in memory. -/
theorem exists_server_of_served {calls : List Call} (hserved : ServedFrom [] calls)
    (hclosed : (hostAfter Document.Server.host default calls).saved = none) :
    ∃ w : Document.Server, Document.Server.host.saved w = none ∧
      Mirrors (Document.Server.host.holds w) (Memory.after {} calls) :=
  ⟨hostAfter Document.Server.host default calls, Document.Server.saved_host hclosed,
    mirrors_hostAfter Document.Server.lawful_host (fun c => by cases c <;> rfl) rfl hserved⟩

/-- **The store in memory and the store on a document server answer alike.**  On a lawful host
without documents the indexes are set up, and then calls are made as the services make them.  Both
stores give the same answer to each of them, and at each moment the documents of the host hold
exactly the records in memory. -/
theorem stores_answer_alike (hH : H.Lawful) {w : σ} (hempty : ∀ c, H.holds w c = 0)
    (hsaved : H.saved w = none) {calls : List Call} (hserved : ServedFrom [] calls) :
    (Documents.setUp.run H.answer w).1 = .ok () ∧
    (∀ earlier c later, calls = earlier ++ c :: later →
      c.Agree
        ((Documents.plan c).run H.answer
          (hostAfter H (Documents.setUp.run H.answer w).2 earlier)).1
        (Memory.answer c (Memory.after {} earlier)).1) ∧
    ∀ earlier later, calls = earlier ++ later →
      Mirrors (H.holds (hostAfter H (Documents.setUp.run H.answer w).2 earlier))
        (Memory.after {} earlier) := by
  obtain ⟨hok, hholds, hsaved'⟩ := Documents.ensures_setUp.run_alone hH hsaved
  have hm : Mirrors (H.holds (Documents.setUp.run H.answer w).2) {} :=
    .empty fun c => hholds ▸ hempty c
  exact ⟨hok, alike_from hH hsaved' hm Memory.kept_empty Memory.brought_empty hserved⟩

/-- A group is not renamed to the slug of a user, on either store. -/
theorem group_keeps_its_slug_beside_user :
    let ada : User := { id := "ada", namespaceId := Ulid.text 1 0, slug := "ada" }
    let lab : Group := { id := Ulid.text 2 0, name := "Lab", slug := "lab", createdBy := "ada" }
    let earlier : List Call := [.insertUser ada, .insertGroup lab (.new lab.id "ada" .owner 0)]
    let w := hostAfter Document.Server.host
      (Documents.setUp.run Document.Server.host.answer {}).2 earlier
    ((Documents.plan (.updateGroup { lab with slug := "ada" })).run
      Document.Server.host.answer w).1 = .error (.slugTaken "ada") := by
  intro ada lab earlier w
  have hids : Ulid.text 1 0 ≠ Ulid.text 2 0 := by decide
  have hfirst : ServedFrom [] earlier := by
    refine ⟨⟨trivial, newTo_nil⟩, ⟨⟨Ulid.shaped_text 2 0, Store.madeFor_new ..⟩, ?_⟩, trivial⟩
    intro d hd kind
    obtain rfl := List.mem_singleton.mp hd
    simp [Call.brings?, ada, lab, hids]
  have hfound : (Memory.after {} earlier).findGroup "lab" = some lab := by decide +kernel
  have hgroup := hfirst.not_user_of_found (List.append_nil _).symm hfound
  have hserved : ServedFrom [] (earlier ++ [.updateGroup { lab with slug := "ada" }]) :=
    ⟨hfirst.1, hfirst.2.1, ⟨trivial, hgroup⟩, trivial⟩
  obtain ⟨-, hagree, -⟩ := stores_answer_alike Document.Server.lawful_host (w := {})
    (fun c => by cases c <;> rfl) rfl hserved
  have hanswer : (Memory.answer (.updateGroup { lab with slug := "ada" })
      (Memory.after {} earlier)).1 = .error (.slugTaken "ada") := by decide +kernel
  exact (hagree earlier _ [] rfl).trans hanswer

end Stores

end Roster.Store
