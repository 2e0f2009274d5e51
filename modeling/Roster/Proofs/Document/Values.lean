/-
# Values of documents

A document is read by the values under its names, so what a command does to a document
is said by what `get` answers afterwards.  Records are read the same way: a document
holds a record exactly if it has the record's values under their names
(`Group.ofDocument?_eq_some_iff` and its like), whatever else it has and in whatever
order.  That is why a change of a few values changes a few fields of the record.
-/
import Roster.Record.Stored

namespace Roster

namespace Document

variable {d : Document} {name : String}

@[simp] theorem get_put (d : Document) (name : String) (v : Value) (other : String) :
    (d.put name v).get other = if other = name then v else d.get other := by
  unfold put
  split
  · next hany =>
      have hmoved : ((fun p : String × Value => p.1 == other) ∘
          fun p => if p.1 = name then (name, v) else p) = fun p => p.1 == other := by
        funext p
        by_cases hp : p.1 = name <;> simp [hp]
      rw [get, List.find?_map, hmoved, get]
      cases hfound : d.find? (fun p => p.1 == other) with
      | none =>
          obtain ⟨p, hp, hname⟩ := List.any_eq_true.mp hany
          have hne : other ≠ name := by
            rintro rfl
            exact List.find?_eq_none.mp hfound p hp hname
          simp [hne]
      | some p =>
          obtain rfl : p.1 = other := by simpa using List.find?_some hfound
          by_cases hp : p.1 = name <;> simp [hp]
  · next hany =>
      rw [get, List.find?_append]
      by_cases ho : other = name
      · subst ho
        have hnone : d.find? (fun p => p.1 == other) = none :=
          List.find?_eq_none.mpr fun p hp hname => hany (List.any_eq_true.mpr ⟨p, hp, hname⟩)
        simp [hnone]
      · have hlast : ([(name, v)] : Document).find? (fun p => p.1 == other) = none := by
          simp [Ne.symm ho]
        simp [hlast, ho, get]

theorem text?_eq_some_iff {s : String} : d.text? name = some s ↔ d.get name = .text s := by
  unfold text?
  split <;> simp_all

theorem optionalText?_eq_some_iff {o : Option String} :
    d.optionalText? name = some o ↔ d.get name = .ofOption o := by
  unfold optionalText?
  cases o <;> split <;> simp_all [Value.ofOption]

theorem int?_eq_some_iff {n : Int} : d.int? name = some n ↔ d.get name = .int n := by
  unfold int?
  split <;> simp_all

end Document

/-! ## Records in documents -/

theorem Role.ofName?_eq_some_iff {word : String} {r : Role} :
    Role.ofName? word = some r ↔ word = r.name := by
  constructor
  · intro h
    exact (by simpa using List.find?_some h : r.name = word).symm
  · rintro rfl
    exact Role.ofName?_name r

theorem Namespace.Kind.ofName?_eq_some_iff {word : String} {k : Namespace.Kind} :
    Namespace.Kind.ofName? word = some k ↔ word = k.name := by
  constructor
  · intro h
    exact (by simpa using List.find?_some h : k.name = word).symm
  · rintro rfl
    exact Namespace.Kind.ofName?_name k

open Document (text?_eq_some_iff optionalText?_eq_some_iff int?_eq_some_iff)

theorem Group.ofDocument?_eq_some_iff {d : Document} {g : Group} :
    Group.ofDocument? d = some g ↔
      d.get "_id" = .text g.id ∧ d.get "name" = .text g.name ∧ d.get "slug" = .text g.slug ∧
        d.get "description" = .ofOption g.description ∧ d.get "created_by" = .text g.createdBy ∧
        d.get "create_time" = .int g.createTime ∧ d.get "update_time" = .int g.updateTime := by
  simp only [ofDocument?, Option.bind_eq_bind, Option.bind_eq_some_iff, text?_eq_some_iff,
    optionalText?_eq_some_iff, int?_eq_some_iff]
  constructor
  · rintro ⟨_, hid, _, hname, _, hslug, _, hdescription, _, hby, _, hcreated, _, hupdated, h⟩
    cases h
    exact ⟨hid, hname, hslug, hdescription, hby, hcreated, hupdated⟩
  · rintro ⟨hid, hname, hslug, hdescription, hby, hcreated, hupdated⟩
    exact ⟨_, hid, _, hname, _, hslug, _, hdescription, _, hby, _, hcreated, _, hupdated, rfl⟩

theorem Member.ofDocument?_eq_some_iff {d : Document} {m : Member} :
    Member.ofDocument? d = some m ↔
      d.get "_id" = .text m.id ∧ d.get "group_id" = .text m.groupId ∧
        d.get "user_id" = .text m.userId ∧ d.get "role" = .text m.role.name ∧
        d.get "create_time" = .int m.createTime ∧ d.get "update_time" = .int m.updateTime := by
  simp only [ofDocument?, Option.bind_eq_bind, Option.bind_eq_some_iff, text?_eq_some_iff,
    int?_eq_some_iff, Role.ofName?_eq_some_iff]
  constructor
  · rintro ⟨_, hid, _, hgroup, _, huser, _, hrole, _, rfl, _, hcreated, _, hupdated, h⟩
    cases h
    exact ⟨hid, hgroup, huser, hrole, hcreated, hupdated⟩
  · rintro ⟨hid, hgroup, huser, hrole, hcreated, hupdated⟩
    exact ⟨_, hid, _, hgroup, _, huser, _, hrole, _, rfl, _, hcreated, _, hupdated, rfl⟩

theorem User.ofDocument?_eq_some_iff {d : Document} {u : User} :
    User.ofDocument? d = some u ↔
      d.get "_id" = .text u.id ∧ d.get "first_name" = .ofOption u.firstName ∧
        d.get "last_name" = .ofOption u.lastName ∧ d.get "email" = .ofOption u.email ∧
        d.get "namespace_id" = .text u.namespaceId ∧ d.get "slug" = .text u.slug ∧
        d.get "create_time" = .int u.createTime ∧ d.get "update_time" = .int u.updateTime := by
  simp only [ofDocument?, Option.bind_eq_bind, Option.bind_eq_some_iff, text?_eq_some_iff,
    optionalText?_eq_some_iff, int?_eq_some_iff]
  constructor
  · rintro ⟨_, hid, _, hfirst, _, hlast, _, hemail, _, hspace, _, hslug, _, hcreated, _, hupdated, h⟩
    cases h
    exact ⟨hid, hfirst, hlast, hemail, hspace, hslug, hcreated, hupdated⟩
  · rintro ⟨hid, hfirst, hlast, hemail, hspace, hslug, hcreated, hupdated⟩
    exact ⟨_, hid, _, hfirst, _, hlast, _, hemail, _, hspace, _, hslug, _, hcreated, _, hupdated,
      rfl⟩

theorem Namespace.ofDocument?_eq_some_iff {d : Document} {n : Namespace} :
    Namespace.ofDocument? d = some n ↔
      d.get "_id" = .text n.id ∧ d.get "slug" = .text n.slug ∧ d.get "kind" = .text n.kind.name ∧
        d.get "group_id" = .ofOption n.groupId ∧ d.get "user_id" = .ofOption n.userId ∧
        d.get "created_by" = .text n.createdBy ∧ d.get "create_time" = .int n.createTime := by
  simp only [ofDocument?, Option.bind_eq_bind, Option.bind_eq_some_iff, text?_eq_some_iff,
    optionalText?_eq_some_iff, int?_eq_some_iff, Kind.ofName?_eq_some_iff]
  constructor
  · rintro ⟨_, hid, _, hslug, _, hkind, _, rfl, _, hgroup, _, huser, _, hby, _, hcreated, h⟩
    cases h
    exact ⟨hid, hslug, hkind, hgroup, huser, hby, hcreated⟩
  · rintro ⟨hid, hslug, hkind, hgroup, huser, hby, hcreated⟩
    exact ⟨_, hid, _, hslug, _, hkind, _, rfl, _, hgroup, _, huser, _, hby, _, hcreated, rfl⟩

end Roster
