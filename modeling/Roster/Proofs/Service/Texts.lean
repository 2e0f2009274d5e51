/-
# Texts that obey their rules

Names, slugs and descriptions come into the store by three ways: a new group is made of a
draft, a group is patched, and a new user gets a slug that is made of the identity.  The
first two are judged before the service is asked (`Request.Accepted`).  The third is not
judged at all: what `Slug.ofText?` gives is a slug, and so is a numbered one
(`valid_candidate`).

A patch is applied to a group that the request has seen, so it needs the invariant for the
texts that it leaves alone; other requests may have changed the group since then, but the
store writes all three texts of the patched group.
-/
import Roster.Api.Payload
import Roster.Proofs.Service.Writing
import Roster.Proofs.Slug
import Roster.Proofs.Store.Parties

namespace Roster

/-! ## The rules of the fields -/

/-- What may stand in a field of a group: a name and a slug that obey their rules, and no
description or one that is not empty and obeys its rule. -/
def Field.Admits : Field → Option String → Prop
  | .name, text => ∃ name, text = some name ∧ nameDefect? name = none
  | .slug, text => ∃ slug, text = some slug ∧ Slug.Valid slug
  | .description, text => ∀ d, text = some d → d ≠ "" ∧ descriptionDefect? d = none

namespace Group

/-- Every text of the group obeys the rule of its field. -/
def TextsValid (g : Group) : Prop := ∀ f : Field, f.Admits (g.text f)

theorem textDefects_eq_nil_iff {name slug description : Option String} :
    textDefects name slug description = [] ↔
      (∀ s, name = some s → Field.nameDefect? s = none) ∧
      (∀ s, slug = some s → Slug.Valid s) ∧
      ∀ s, description = some s → Field.descriptionDefect? s = none := by
  simp only [textDefects, List.filterMap_eq_nil_iff, List.mem_cons, List.not_mem_nil, or_false,
    forall_eq_or_imp, forall_eq, Option.bind_eq_none_iff, Slug.Valid]

/-- An empty description counts as none, so it is not stored. -/
theorem admits_describe {text : String} (h : Field.descriptionDefect? text = none) :
    Field.description.Admits (describe text) := by
  intro d hd
  unfold describe at hd
  split at hd
  · cases hd
  · next hne =>
      cases hd
      exact ⟨hne, h⟩

theorem textsValid_ofDraft {d : Draft} (h : d.defects = []) (id userId : String) (now : Int) :
    (ofDraft d id userId now).TextsValid := by
  obtain ⟨hname, hslug, hdescription⟩ := textDefects_eq_nil_iff.mp h
  intro f
  cases f with
  | name => exact ⟨d.name, rfl, hname _ rfl⟩
  | slug => exact ⟨d.slug, rfl, hslug _ rfl⟩
  | description =>
      show Field.description.Admits (d.description.bind describe)
      cases htext : d.description with
      | none => exact nofun
      | some text => exact admits_describe (hdescription text htext)

/-- What a patch without defects puts into a field may stand there. -/
theorem Patch.admits_text {p : Patch} (h : p.defects = []) {f : Field} {text : Option String}
    (ht : p.text? f = some text) : f.Admits text := by
  obtain ⟨hname, hslug, hdescription⟩ := textDefects_eq_nil_iff.mp h
  cases f with
  | name =>
      obtain ⟨name, hp, rfl⟩ := Option.map_eq_some_iff.mp ht
      exact ⟨name, rfl, hname name hp⟩
  | slug =>
      obtain ⟨slug, hp, rfl⟩ := Option.map_eq_some_iff.mp ht
      exact ⟨slug, rfl, hslug slug hp⟩
  | description =>
      obtain ⟨d, hp, rfl⟩ := Option.map_eq_some_iff.mp ht
      exact admits_describe (hdescription d hp)

theorem Patch.Makes.textsValid {p : Patch} {old new : Group} (hmakes : p.Makes old new)
    (hp : p.defects = []) (hold : old.TextsValid) : new.TextsValid := by
  intro f
  rw [hmakes.text f]
  cases ht : p.text? f with
  | none => exact hold f
  | some text => exact p.admits_text hp ht

/-- The store takes over all texts of the group that is written. -/
theorem TextsValid.withTextsOf {g : Group} (h : g.TextsValid) (old : Group) :
    (Store.Memory.withTextsOf old g).TextsValid := by
  intro f
  have hsame : (Store.Memory.withTextsOf old g).text f = g.text f := by cases f <;> rfl
  rw [hsame]
  exact h f

end Group

namespace Store

/-- The texts of a group or a user obey their rules. -/
def Party.TextsValid : Party → Prop
  | .group g => g.TextsValid
  | .user u => Slug.Valid u.slug

theorem Party.TextsValid.slug {p : Party} (h : p.TextsValid) : Slug.Valid p.slug := by
  cases p with
  | group g =>
      obtain ⟨_, hslug, hvalid⟩ := h .slug
      cases hslug
      exact hvalid
  | user u => exact h

/-- The texts that the call writes obey their rules. -/
def Call.TextsValid : Call → Prop
  | .insertGroup g _ | .updateGroup g => g.TextsValid
  | .insertUser u => Slug.Valid u.slug
  | _ => True

theorem Call.Looks.textsValid {c : Call} (h : c.Looks) : c.TextsValid := by
  cases c with
  | insertGroup | updateGroup | insertUser => exact h.elim
  | _ => trivial

namespace Memory

/-- Slugs are kept, and all texts obey their rules. -/
structure TextsValid (s : Memory) : Prop where
  slugs : s.SlugsKept
  parties : ∀ {p}, s.Has p → p.TextsValid

variable {s : Memory}

theorem textsValid_empty : TextsValid {} where
  slugs := slugsKept_empty
  parties {p} h := by
    cases p with
    | group g => cases h
    | user u => cases h

/-- A call that writes valid texts keeps the texts valid. -/
theorem answer_textsValid {c : Call} (hc : c.TextsValid) (h : s.TextsValid) :
    (answer c s).2.TextsValid where
  slugs := answer_slugsKept c h.slugs
  parties {p} hp := by
    rcases has_of_answer h.slugs hp with hold | hput
    · exact h.parties hold
    · cases c with
      | insertGroup g owner =>
          cases hput
          exact hc
      | updateGroup g =>
          obtain ⟨old, -, rfl⟩ := hput
          exact Group.TextsValid.withTextsOf hc old
      | insertUser u =>
          cases hput
          exact hc
      | updateProfile u =>
          -- The profile of a user has no part in its slug.
          obtain ⟨old, hold, rfl⟩ := hput
          exact (h.parties (h.slugs.users.get? hold) : Party.TextsValid (.user old))
      | _ => exact hput.elim

end Memory

end Store

/-! ## The slugs of users -/

namespace Service.Users

theorem isBase_slugBase (c : Caller) (id : String) : Slug.IsBase (slugBase c id) := by
  unfold slugBase
  cases h : (slugSources c id).findSome? Slug.ofText? with
  | none => exact .inr rfl
  | some slug =>
      obtain ⟨text, -, htext⟩ := List.exists_of_findSome?_eq_some h
      exact .inl ⟨text, htext⟩

theorem valid_slugBase (c : Caller) (id : String) : Slug.Valid (slugBase c id) :=
  (isBase_slugBase c id).valid

/-- **Every slug that is tried for a new user is a slug**, whatever the identity. -/
theorem valid_candidate (c : Caller) (id : String) {attempt : Nat}
    (h : attempt ∈ List.range' 1 maxAttempts) :
    Slug.Valid (candidate (slugBase c id) attempt) := by
  have hle : attempt ≤ maxAttempts := by
    have := List.mem_range'_1.mp h
    omega
  unfold candidate
  split
  · exact valid_slugBase c id
  · refine Slug.valid_numbered (valid_slugBase c id) ?_
    have hdigits : (Nat.toDigits 10 attempt).length ≤ 2 :=
      (Nat.length_toDigits_le_iff (by decide) (by decide)).mpr
        (Nat.lt_of_le_of_lt hle (by decide))
    rw [Slug.length_numberEnding]
    exact Nat.lt_of_le_of_lt (Nat.succ_le_succ hdigits) (by decide)

end Service.Users

/-! ## What is asked of the service -/

namespace Service

open Store (Call Memory)

/-- The texts of the request have been judged, and none has a defect. -/
def Request.Accepted : Request → Prop
  | .createGroup _ draft => draft.defects = []
  | .updateGroup _ _ patch => patch.defects = []
  | _ => True

/-- The texts that a question may write into the store obey their rules. -/
def AsksValid (_ : List Inquiry) : Ask → Prop
  | .store call => call.TextsValid
  | _ => True

theorem keeps_textsValid : Keeps Memory.TextsValid AsksValid := by
  intro past e _ hs he hq
  cases he with
  | call c s => exact Memory.answer_textsValid hq hs
  | clock now s => exact hs
  | freshId s _ => exact hs

/-- The group that a request has seen was in a store whose texts are valid. -/
theorem Saw.textsValid {asks : List Inquiry → Ask → Prop} {past : List Inquiry} {slug : String}
    {g : Group} (h : Saw past slug g) (hpast : Heeded Memory.TextsValid asks past) :
    g.TextsValid := by
  obtain ⟨s, hs, hg⟩ := h
  obtain ⟨-, -, (hvalid : s.TextsValid), -⟩ := hpast.of_mem hs
  have hhas : s.Has (.group g) := hvalid.slugs.get?_of_findGroup hg
  exact hvalid.parties hhas

theorem Request.Asks.valid {r : Request} (hr : r.Accepted) {asks : List Inquiry → Ask → Prop}
    {past : List Inquiry} (hpast : Heeded Memory.TextsValid asks past) {q : Ask}
    (h : r.Asks past q) : AsksValid past q := by
  cases q with
  | clock => trivial
  | freshId => trivial
  | store call =>
      rcases h with hlooks | hwrites
      · exact hlooks.textsValid
      · cases hwrites with
        | newGroup => exact Group.textsValid_ofDraft hr _ _ _
        | patchedGroup hsaw hmakes => exact hmakes.textsValid hr (hsaw.textsValid hpast)
        | newUser _ _ hattempt => exact Users.valid_candidate _ _ hattempt
        | deletion | roles | removal | profile => trivial

/-- **Accepted requests write valid texts only**, however their plans are answered. -/
theorem Request.asksValid_plan {r : Request} (hr : r.Accepted) :
    Abides Memory.TextsValid AsksValid (fun _ _ => True) r.plan [] :=
  r.asks_plan.mono (fun _ _ => trivial) trivial fun _ _ hpast h => h.valid hr hpast

end Service

end Roster
