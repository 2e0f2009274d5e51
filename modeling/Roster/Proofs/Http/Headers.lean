/-
# First values

Under a name, only the first field counts.  A field of another name is passed over, and so
is a later one of the same name, and a list of fields can be edited there in any way without
that a first value changes (`Edited.first?_eq`).  Which names are the same is a matter of small
letters, so of two equal names one can stand for the other (`sameName_congr`).
-/
import Roster.Http.Message

namespace Roster.Http.Header

variable {a b name : String} {names : List String} {headers headers' before : List Header}
  {field : Header}

theorem sameName_congr (h : sameName a b) (name : String) : sameName a name = sameName b name := by
  unfold sameName at h ⊢
  rw [eq_of_beq h]

/-- Where it stands, behind the fields `before`, the field is passed over when these names are
looked up: it has none of them, or there is a field of its name already. -/
def PassedOver (names : List String) (before : List Header) (field : Header) : Prop :=
  (∀ name ∈ names, sameName field.1 name = false) ∨ ∃ earlier ∈ before, sameName earlier.1 field.1

/-- Fields have been put in and taken out where they are passed over, one after the other.  To
change a field is to take it out and to put another in. -/
inductive Edited (names : List String) (headers : List Header) : List Header → Prop
  | unchanged : Edited names headers headers
  | added {before after : List Header} {field : Header} (h : Edited names headers (before ++ after))
      (hfield : PassedOver names before field) : Edited names headers (before ++ field :: after)
  | removed {before after : List Header} {field : Header}
      (h : Edited names headers (before ++ field :: after))
      (hfield : PassedOver names before field) : Edited names headers (before ++ after)

theorem first?_append_cons (hfield : PassedOver names before field) (hname : name ∈ names)
    (after : List Header) :
    first? (before ++ field :: after) name = first? (before ++ after) name := by
  unfold first?
  rw [List.find?_append, List.find?_append]
  cases hfound : before.find? fun h => sameName h.1 name with
  | some h => rfl
  | none =>
      have hother : sameName field.1 name = false := by
        rcases hfield with hother | ⟨earlier, hearlier, hsame⟩
        · exact hother name hname
        · -- The earlier field of that name would have been found.
          rw [← sameName_congr hsame]
          exact Bool.eq_false_iff.mpr (List.find?_eq_none.mp hfound earlier hearlier)
      rw [List.find?_cons_of_neg (by simp [hother])]

/-- **Edits of fields that are passed over change no first value.** -/
theorem Edited.first?_eq (h : Edited names headers headers') (hname : name ∈ names) :
    first? headers' name = first? headers name := by
  induction h with
  | unchanged => rfl
  | added _ hfield ih => rw [first?_append_cons hfield hname, ih]
  | removed _ hfield ih => rw [← ih, first?_append_cons hfield hname]

end Roster.Http.Header
