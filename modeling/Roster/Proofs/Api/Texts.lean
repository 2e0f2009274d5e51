/-
# Only valid texts are stored

The invariant of the services (`Memory.TextsValid`) holds under the HTTP interface, for it
is kept by all accepted requests, and the endpoints make no others.
-/
import Roster.Proofs.Api.Handling

namespace Roster.Api

open Http (Request Response)
open Service (Supply Traffic alone)
open Store (Memory)

/-- **Only valid texts are stored**, whatever HTTP requests are served at the same time and
whatever comes out of their bodies, for callers identified by a gateway or by a token.  Every slug
is a slug, be it of a group or made for a user; every name of a group obeys its rule; and a
description is absent, or it is not empty and obeys its rule. -/
theorem stored_texts_valid {scheme : Identity.Scheme} {t : Traffic (desk scheme)}
    (ht : t.Reached) :
    (∀ k n, t.store.namespaces.get? k = some n → n.slug = k ∧ Slug.Valid n.slug) ∧
    (∀ k g, t.store.groups.get? k = some g →
      Slug.Valid g.slug ∧ Field.nameDefect? g.name = none ∧
        (g.description = none ∨ ∃ text, g.description = some text ∧ text ≠ "" ∧
          Field.descriptionDefect? text = none)) ∧
    ∀ k u, t.store.users.get? k = some u → Slug.Valid u.slug := by
  have hvalid : t.store.TextsValid :=
    (ht.abides Memory.textsValid_empty (fun _ => Service.keeps_textsValid)
      fun arrived : Libraries × Request =>
        abides_serve_of (fun _ hq => Service.Request.asksValid_plan hq)
          arrived.1 scheme arrived.2).1
  refine ⟨fun k n hn => ?_, fun k g hg => ?_, fun k u hu => ?_⟩
  · obtain ⟨p, hp, rfl, -⟩ := hvalid.slugs.party_of_entry hn
    have hslug := hvalid.slugs.slug_of_entry hn
    exact ⟨hslug, hslug ▸ (hvalid.parties hp).slug⟩
  · have htexts : g.TextsValid := hvalid.parties (p := .group g) (hvalid.slugs.groups.get? hg)
    obtain ⟨slug, hslug, hslugValid⟩ := htexts .slug
    obtain ⟨name, hname, hnameValid⟩ := htexts .name
    cases hslug
    cases hname
    refine ⟨hslugValid, hnameValid, ?_⟩
    cases htext : g.description with
    | none => exact .inl rfl
    | some text => exact .inr ⟨text, rfl, htexts .description text htext⟩
  · exact hvalid.parties (p := .user u) (hvalid.slugs.users.get? hu)

/-- A group whose description was sent empty has none, and a user whose address would make a
reserved ending gets a slug without it. -/
theorem empty_description_and_reserved_ending :
    let lib := Libraries.plain
    let scheme : Identity.Scheme := { kind := .gateway }
    let user := [("X-Forwarded-User", "ada"), ("X-Forwarded-Email", "ada.git@lab")]
    let post : Request :=
      { method := "POST", target := "/api/data/groups",
        headers := ("content-type", "application/json") :: user
        body := Text.bytes "\x7b\"name\":\"Lab\",\"slug\":\"lab\",\"description\":\"\"\x7d" }
    let made := (alone (serve lib scheme post) {} .counting).2.store
    let known := (alone (serve lib scheme ⟨"GET", "/api/data/user", user, []⟩) made .counting).2.store
    (∃ g, known.groups.get? (Ulid.text 0 0) = some g ∧ Slug.Valid g.slug ∧ g.description = none) ∧
      ∃ n, known.namespaces.get? "ada" = some n ∧ Slug.Valid n.slug := by
  intro lib scheme user post made known
  have hmade : (⟨made, _⟩ : Traffic (desk scheme)).Reached :=
    Traffic.Reached.alone (D := desk scheme) .refl (lib, post) Supply.shaped_counting
  have hknown : (⟨known, _⟩ : Traffic (desk scheme)).Reached :=
    hmade.alone (D := desk scheme) (lib, ⟨"GET", "/api/data/user", user, []⟩)
      Supply.shaped_counting
  obtain ⟨hentries, hgroups, -⟩ := stored_texts_valid hknown
  have hg : known.groups.get? (Ulid.text 0 0) = some
      { id := Ulid.text 0 0, name := "Lab", slug := "lab", createdBy := "ada" } := by
    decide +kernel +zetaReduce
  have hn : known.namespaces.get? "ada" = some
      (.ofUser (Ulid.text 0 0) "ada" "ada" 0) := by
    decide +kernel +zetaReduce
  exact ⟨⟨_, hg, (hgroups _ _ hg).1, rfl⟩, _, hn, (hentries _ _ hn).2⟩

end Roster.Api
