/-
# What a gateway states

Four fields say who makes a request.  Of each only the first value counts, without the white
space around it (`said?`), and whatever else a request brings along says nothing: the identity
is read from no other field, and a second value changes nothing (`ofGateway_congr`).

The field of the user is read first and decides.  If it says nothing, the caller is anonymous
and the other three are not looked at; if it names somebody, all four have to be texts
(`ofGateway_eq_ok_iff`).
-/
import Roster.Identity
import Roster.Proofs.Http.Headers

namespace Roster

/-! ## Trimmed texts -/

namespace Text

/-- A text that is not empty and has no white space at its ends. -/
def Trimmed (t : String) : Prop :=
  t ≠ "" ∧ (∀ c, t.toList.head? = some c → isBlank c = false) ∧
    ∀ c, t.toList.getLast? = some c → isBlank c = false

theorem trimmed_trim {s : String} (h : trim s ≠ "") : Trimmed (trim s) := by
  have hcs : (trim s).toList = cutEnd isBlank (s.toList.dropWhile isBlank) := String.toList_ofList
  refine ⟨h, ?_, ?_⟩
  · intro c hc
    rw [hcs] at hc
    -- What is cut off the end leaves the first character in its place.
    obtain ⟨tail, htail⟩ := cutEnd_isPrefixOf isBlank (s.toList.dropWhile isBlank)
    obtain ⟨r, hr⟩ := List.head?_eq_some_iff.mp hc
    have hfirst := List.head?_dropWhile_not isBlank s.toList
    rw [← htail, hr] at hfirst
    exact hfirst
  · intro c hc
    rw [hcs] at hc
    exact getLast?_cutEnd hc

end Text

namespace Identity

open Http (Header)
open Http.Header (first? isText Edited)

variable {adminIds : List String} {headers headers' : List Header} {name id : String} {c : Caller}

/-! ## One field -/

/-- What a field says: its first value without the white space around it.  A blank value says
nothing. -/
def said? (headers : List Header) (name : String) : Option String :=
  ((first? headers name).map Text.trim).filter (· ≠ "")

/-- The first value of the field is a text, if it has a value. -/
def Readable (headers : List Header) (name : String) : Prop :=
  ∀ value, first? headers name = some value → isText value

theorem said?_eq_some_iff {t : String} : said? headers name = some t ↔
    t ≠ "" ∧ ∃ value, first? headers name = some value ∧ Text.trim value = t := by
  simp only [said?, Option.filter_eq_some_iff, Option.map_eq_some_iff, decide_eq_true_eq, and_comm]

theorem said?_eq_none_iff : said? headers name = none ↔
    ∀ value, first? headers name = some value → Text.trim value = "" := by
  cases h : first? headers name <;> simp [said?, h, Option.filter]

theorem trimmed_of_said? {t : String} (h : said? headers name = some t) : Text.Trimmed t := by
  obtain ⟨hne, value, -, rfl⟩ := said?_eq_some_iff.mp h
  exact Text.trimmed_trim hne

/-- A field is understood if it is a text, and then it is what it says. -/
theorem field?_eq_ok_iff {said : Option String} : field? headers name = .ok said ↔
    Readable headers name ∧ said? headers name = said := by
  unfold field? Readable
  cases h : first? headers name with
  | none => simp [said?, h]
  | some value =>
      by_cases htext : isText value
      · by_cases hblank : Text.trim value = "" <;> simp [said?, h, htext, hblank, Option.filter]
      · simp [htext]

theorem field?_congr (h : first? headers' name = first? headers name) :
    field? headers' name = field? headers name := by
  rw [field?, field?, h]

/-! ## The four fields -/

/-- The fields in which a gateway states the identity of a caller. -/
def gatewayFields : List String :=
  ["X-Forwarded-User", "X-Forwarded-First-Name", "X-Forwarded-Last-Name", "X-Forwarded-Email"]

/-- **Nothing counts but the first values of the four fields.** -/
theorem ofGateway_congr (h : ∀ name ∈ gatewayFields, first? headers' name = first? headers name) :
    ofGateway adminIds headers' = ofGateway adminIds headers := by
  have hfield : ∀ name ∈ gatewayFields, field? headers' name = field? headers name := by
    intro name hname
    exact field?_congr (h name hname)
  simp only [gatewayFields, List.forall_mem_cons] at hfield
  obtain ⟨huser, hfirst, hlast, hemail, -⟩ := hfield
  rw [ofGateway, ofGateway, huser, hfirst, hlast, hemail]

/-- The identities that a gateway can state with these fields. -/
inductive States (adminIds : List String) (headers : List Header) : Caller → Prop
  /-- The field of the user says nothing, and then the others may hold what they like. -/
  | nobody (huser : Readable headers "X-Forwarded-User")
      (h : said? headers "X-Forwarded-User" = none) : States adminIds headers .anonymous
  /-- All four are texts, and that of the user says who it is. -/
  | somebody {id : String} (hfields : ∀ name ∈ gatewayFields, Readable headers name)
      (h : said? headers "X-Forwarded-User" = some id) :
      States adminIds headers
        { id := some id
          isAdmin := adminIds.contains id
          firstName := said? headers "X-Forwarded-First-Name"
          lastName := said? headers "X-Forwarded-Last-Name"
          email := said? headers "X-Forwarded-Email" }

theorem bind_eq_ok {α β ε : Type} {x : Except ε α} {f : α → Except ε β} {b : β} :
    (x >>= f) = .ok b ↔ ∃ a, x = .ok a ∧ f a = .ok b := by
  cases x <;> simp [bind, Except.bind]

theorem ofGateway_eq_ok_iff : ofGateway adminIds headers = .ok c ↔ States adminIds headers c := by
  simp only [ofGateway, bind_eq_ok, field?_eq_ok_iff]
  constructor
  · rintro ⟨_, ⟨huser, rfl⟩, h⟩
    split at h
    · next hnone =>
        cases h
        exact .nobody huser hnone
    · next id hid =>
        simp only [bind_eq_ok, field?_eq_ok_iff] at h
        obtain ⟨_, ⟨hfirst, rfl⟩, _, ⟨hlast, rfl⟩, _, ⟨hemail, rfl⟩, h⟩ := h
        cases h
        refine .somebody ?_ hid
        simp only [gatewayFields, List.forall_mem_cons]
        exact ⟨huser, hfirst, hlast, hemail, fun _ h => nomatch h⟩
  · intro h
    cases h with
    | nobody huser h => exact ⟨_, ⟨huser, rfl⟩, by rw [h]; rfl⟩
    | somebody hfields h =>
        simp only [gatewayFields, List.forall_mem_cons] at hfields
        obtain ⟨huser, hfirst, hlast, hemail, -⟩ := hfields
        refine ⟨_, ⟨huser, rfl⟩, ?_⟩
        rw [h]
        simp only [bind_eq_ok, field?_eq_ok_iff]
        exact ⟨_, ⟨hfirst, rfl⟩, _, ⟨hlast, rfl⟩, _, ⟨hemail, rfl⟩, rfl⟩

theorem States.trimmed {t : String} (h : States adminIds headers c)
    (ht : c.id = some t ∨ c.firstName = some t ∨ c.lastName = some t ∨ c.email = some t) :
    Text.Trimmed t := by
  cases h with
  | nobody => rcases ht with ht | ht | ht | ht <;> cases ht
  | somebody _ h =>
      rcases ht with ht | ht | ht | ht
      · cases ht
        exact trimmed_of_said? h
      · exact trimmed_of_said? ht
      · exact trimmed_of_said? ht
      · exact trimmed_of_said? ht

theorem States.isAdmin_iff (h : States adminIds headers c) :
    c.isAdmin ↔ ∃ id, c.id = some id ∧ id ∈ adminIds := by
  cases h with
  | nobody => simp [Caller.anonymous]
  | somebody => simp

/-- **The gateway is believed in four fields, and in the first value of each.**  A request can be
edited anywhere else, in `Authorization` as in a second value, and the outcome is the same.  What
an identity states is never blank nor has it white space around it, and an administrator has an id
that is listed.  An id comes from a value of the field of the user and from nowhere else, and
without one the caller is anonymous, whatever the other three fields hold. -/
theorem gateway_believed_in_first_values (adminIds : List String) (headers : List Header) :
    (∀ headers', (∀ name ∈ gatewayFields, first? headers' name = first? headers name) →
      ofGateway adminIds headers' = ofGateway adminIds headers) ∧
    (∀ headers', Edited gatewayFields headers headers' →
      ofGateway adminIds headers' = ofGateway adminIds headers) ∧
    (∀ c, ofGateway adminIds headers = .ok c →
      (∀ t, c.id = some t ∨ c.firstName = some t ∨ c.lastName = some t ∨ c.email = some t →
        Text.Trimmed t) ∧
      (c.isAdmin ↔ ∃ id, c.id = some id ∧ id ∈ adminIds)) ∧
    (∀ id, (∃ c, ofGateway adminIds headers = .ok c ∧ c.id = some id) ↔
      id ≠ "" ∧ (∃ value, first? headers "X-Forwarded-User" = some value ∧ Text.trim value = id) ∧
        ∀ name ∈ gatewayFields, ∀ value, first? headers name = some value → isText value) ∧
    ∀ c, (ofGateway adminIds headers = .ok c ∧ c.id = none) ↔
      c = .anonymous ∧ ∀ value, first? headers "X-Forwarded-User" = some value →
        isText value ∧ Text.trim value = "" := by
  refine ⟨?_, ?_, ?_, ?_, ?_⟩
  · intro headers' h
    exact ofGateway_congr h
  · intro headers' h
    refine ofGateway_congr ?_
    intro name hname
    exact h.first?_eq hname
  · intro c h
    have hstates : States adminIds headers c := ofGateway_eq_ok_iff.mp h
    refine ⟨?_, hstates.isAdmin_iff⟩
    intro t ht
    exact hstates.trimmed ht
  · intro id
    rw [← and_assoc, ← said?_eq_some_iff]
    constructor
    · rintro ⟨c, hc, hid⟩
      cases ofGateway_eq_ok_iff.mp hc with
      | nobody => cases hid
      | somebody hfields h =>
          cases hid
          exact ⟨h, hfields⟩
    · rintro ⟨h, hfields⟩
      exact ⟨_, ofGateway_eq_ok_iff.mpr (.somebody hfields h), rfl⟩
  · intro c
    constructor
    · rintro ⟨hc, hid⟩
      cases ofGateway_eq_ok_iff.mp hc with
      | nobody huser h =>
          refine ⟨rfl, ?_⟩
          intro value hvalue
          exact ⟨huser value hvalue, said?_eq_none_iff.mp h value hvalue⟩
      | somebody => cases hid
    · rintro ⟨rfl, h⟩
      refine ⟨ofGateway_eq_ok_iff.mpr (.nobody ?_ ?_), rfl⟩
      · intro value hvalue
        exact (h value hvalue).1
      · rw [said?_eq_none_iff]
        intro value hvalue
        exact (h value hvalue).2

/-- A second user and a token say nothing, in whatever case the names are written, and ada is not
made an administrator by them. -/
theorem second_user_not_believed :
    let alone := [("x-forwarded-user", " ada\t"), ("X-Forwarded-Email", " ")]
    let headers := [("x-forwarded-user", " ada\t"), ("X-FORWARDED-USER", "boss"),
      ("Authorization", "Bearer boss"), ("X-Forwarded-Email", " ")]
    Edited gatewayFields headers alone ∧
      ofGateway ["boss"] alone = ofGateway ["boss"] headers ∧
      ∃ c, ofGateway ["boss"] headers = .ok c ∧ c.id = some "ada" ∧ ¬ c.isAdmin := by
  intro alone headers
  have hedited : Edited gatewayFields headers alone := by
    refine @Edited.removed _ _ [("x-forwarded-user", " ada\t")] _ ("X-FORWARDED-USER", "boss") ?_ ?_
    · refine @Edited.removed _ _ [("x-forwarded-user", " ada\t"), ("X-FORWARDED-USER", "boss")] _
        ("Authorization", "Bearer boss") .unchanged (.inl (by decide))
    · exact .inr ⟨_, List.mem_singleton.mpr rfl, by decide⟩
  obtain ⟨-, hsame, hstates, hid, -⟩ := gateway_believed_in_first_values ["boss"] headers
  obtain ⟨c, hc, hada⟩ := (hid "ada").mpr ⟨by decide, ⟨" ada\t", by decide, by decide⟩, by decide⟩
  refine ⟨hedited, hsame alone hedited, c, hc, hada, ?_⟩
  intro hadmin
  obtain ⟨id, hsome, hlisted⟩ := (hstates c hc).2.mp hadmin
  rw [hada] at hsome
  cases hsome
  exact absurd hlisted (by decide)

end Identity

end Roster
