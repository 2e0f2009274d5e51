/-
# A table and a collection

The same records in a table and in a collection of documents.  `Reads` says that the
documents, read as records, are the values of the table, each as often as it is there.
What it says is kept when a document is added, taken away or changed together with the
value in the table, and it turns questions about documents into questions about values.
-/
import Roster.Proofs.Document.Hosts
import Roster.Proofs.Document.Values
import Roster.Proofs.Store.Keyed
import Roster.Store.Memory

namespace Roster

open Document (Value)

/-! ## The values of a table as a multiset -/

namespace Table

variable {α : Type} {t : Table α} {k : String} {a : α}

/-- The values, in whatever order. -/
def items (t : Table α) : Multiset α := ↑t.values

theorem mem_items_iff {t : Table α} {a : α} : a ∈ t.items ↔ ∃ k, t.get? k = some a :=
  Multiset.mem_coe.trans mem_values_iff

theorem not_contains_iff : ¬ t.contains k ↔ t.get? k = none := by
  rw [contains, Option.not_isSome_iff_eq_none]

theorem nodup_entries (t : Table α) : t.entries.Nodup := by
  refine t.ascending.imp ?_
  rintro e _ hlt rfl
  exact String.lt_irrefl _ hlt

/-- A table is known by its entries, in whatever order. -/
theorem items_eq_of_entries {t : Table α} {l : List (String × α)} (hl : l.Nodup)
    (h : ∀ k a, t.get? k = some a ↔ (k, a) ∈ l) : t.items = ↑(l.map (·.2)) := by
  refine Multiset.coe_eq_coe.mpr (List.Perm.map _ ?_)
  refine (List.perm_ext_iff_of_nodup t.nodup_entries hl).mpr fun e => ?_
  rw [← h e.1 e.2]
  exact mem_entries_iff

theorem items_insert (hk : t.get? k = none) (a : α) : (t.insert k a).items = a ::ₘ t.items := by
  have hnew : ∀ b, (k, b) ∉ t.entries := by
    intro b hb
    rw [mem_entries_iff, hk] at hb
    cases hb
  refine items_eq_of_entries (List.nodup_cons.mpr ⟨hnew a, t.nodup_entries⟩) fun j b => ?_
  rw [get?_insert, List.mem_cons, mem_entries_iff]
  split
  · next hj =>
      subst hj
      simp [hk, eq_comm]
  · next hj => simp [hj]

theorem items_erase (hk : t.get? k = some a) : t.items = a ::ₘ (t.erase k).items := by
  have hold : t = (t.erase k).insert k a := by
    ext1 j
    rw [get?_insert, get?_erase]
    split
    · next hj => rw [hj, hk]
    · rfl
  rw [← items_insert (get?_erase_self t k) a, ← hold]

theorem values_filter (t : Table α) (q : α → Bool) :
    (t.filter fun _ a => q a).values = t.values.filter q :=
  List.filter_map.symm

/-- A value that is looked for by its own key is what stands there. -/
theorem Keyed.find?_values {key : α → String} (ht : t.Keyed key) (k : String) :
    t.values.find? (key · == k) = t.get? k := by
  cases hk : t.get? k with
  | none =>
      refine List.find?_eq_none.mpr fun a ha hkey => ?_
      rw [ht.mem_values_iff, beq_iff_eq.mp hkey, hk] at ha
      cases ha
  | some a =>
      cases hfound : t.values.find? (key · == k) with
      | none =>
          refine absurd (beq_iff_eq.mpr (ht hk)) (List.find?_eq_none.mp hfound a ?_)
          exact Table.mem_values_iff.mpr ⟨k, hk⟩
      | some b =>
          have hkey : key b = k := by simpa using List.find?_some hfound
          have hb := ht.mem_values_iff.mp (List.mem_of_find?_eq_some hfound)
          rw [hkey, hk] at hb
          exact hb.symm

theorem Keyed.eq_of_key {key : α → String} (ht : t.Keyed key) {a b : α} (ha : a ∈ t.values)
    (hb : b ∈ t.values) (h : key a = key b) : a = b := by
  rw [ht.mem_values_iff] at ha hb
  rw [h, hb] at ha
  exact (Option.some.inj ha).symm

theorem filter_congr {p q : String → α → Bool} (h : ∀ k a, t.get? k = some a → p k a = q k a) :
    t.filter p = t.filter q := by
  ext1 k
  rw [get?_filter, get?_filter]
  cases hk : t.get? k with
  | none => rfl
  | some a => rw [Option.filter_some, Option.filter_some, h k a hk]

theorem filter_eq_self {p : String → α → Bool} (h : ∀ k a, t.get? k = some a → p k a) :
    t.filter p = t := by
  ext1 k
  rw [get?_filter]
  cases hk : t.get? k with
  | none => rfl
  | some a => rw [Option.filter_some, if_pos (h k a hk)]

/-- Leaving out the values with a key takes away what stands under it. -/
theorem Keyed.filter_ne {key : α → String} (ht : t.Keyed key) (k : String) :
    (t.filter fun _ a => !(key a == k)) = t.erase k := by
  refine filter_congr fun j a ha => ?_
  rw [ht ha]
  by_cases hj : j = k <;> simp [hj]

theorem Keyed.exists_of_key {key : α → String} (ht : t.Keyed key) {k : String} :
    0 < (t.values.filter (key · == k)).length ↔ t.contains k := by
  rw [List.length_filter_pos_iff, contains_iff]
  constructor
  · rintro ⟨a, ha, hk⟩
    exact ⟨a, beq_iff_eq.mp hk ▸ ht.mem_values_iff.mp ha⟩
  · rintro ⟨a, ha⟩
    exact ⟨a, Table.mem_values_iff.mpr ⟨k, ha⟩, beq_iff_eq.mpr (ht ha)⟩

end Table

/-! ## Reading documents -/

namespace Store

variable {α : Type} {of : Document → Option α} {ds : Multiset Document} {t : Table α}
  {d : Document} {k : String} {a : α}

/-- The documents hold the values of the table. -/
def Reads (of : Document → Option α) (ds : Multiset Document) (t : Table α) : Prop :=
  ds.map of = t.items.map some

theorem reads_empty : Reads of 0 {} := rfl

theorem Reads.insert (h : Reads of ds t) (hd : of d = some a) (hk : t.get? k = none) :
    Reads of (d ::ₘ ds) (t.insert k a) := by
  rw [Reads, Multiset.map_cons, hd, Table.items_insert hk, Multiset.map_cons]
  exact congrArg _ h

theorem Reads.erase (h : Reads of ds t) (hmem : d ∈ ds) (hd : of d = some a)
    (hk : t.get? k = some a) : Reads of (ds.erase d) (t.erase k) := by
  have hall : ds.map of = some a ::ₘ (ds.erase d).map of := by
    rw [← hd, ← Multiset.map_cons, Multiset.cons_erase hmem]
  rw [Reads, Table.items_erase hk, Multiset.map_cons, hall] at h
  exact (Multiset.cons_inj_right _).mp h

/-- Every value has its document. -/
theorem Reads.document (h : Reads of ds t) (hk : t.get? k = some a) : ∃ d ∈ ds, of d = some a := by
  have hmem : some a ∈ ds.map of := by
    rw [h]
    exact Multiset.mem_map_of_mem some (Table.mem_items_iff.mpr ⟨k, hk⟩)
  exact Multiset.mem_map.mp hmem

/-- Every document holds a value. -/
theorem Reads.value (h : Reads of ds t) (hd : d ∈ ds) : ∃ k a, t.get? k = some a ∧ of d = some a := by
  have hmem : of d ∈ t.items.map some := h ▸ Multiset.mem_map_of_mem of hd
  obtain ⟨a, ha, he⟩ := Multiset.mem_map.mp hmem
  obtain ⟨k, hk⟩ := Table.mem_items_iff.mp ha
  exact ⟨k, a, hk, he.symm⟩

theorem Reads.filter (h : Reads of ds t) {p : Document → Prop} [DecidablePred p] {q : α → Bool}
    (hpq : ∀ d a, of d = some a → (p d ↔ q a)) :
    Reads of (ds.filter p) (t.filter fun _ a => q a) := by
  have hkeep : ds.filter p = ds.filter ((fun o => o.any q) ∘ of) := by
    refine Multiset.filter_congr fun d hd => ?_
    obtain ⟨k, a, -, ha⟩ := h.value hd
    rw [hpq d a ha, Function.comp, ha]
    rfl
  have hitems : (t.filter fun _ a => q a).items = t.items.filter (q ·) := by
    rw [Table.items, Table.values_filter, Table.items, Multiset.filter_coe]
    simp
  rw [Reads, hkeep, ← Multiset.filter_map, h, Multiset.filter_map, hitems]
  rfl

theorem exists_records {l : List Document} (h : ∀ d ∈ l, ∃ a, of d = some a) :
    ∃ records : List α, l.map of = records.map some := by
  induction l with
  | nil => exact ⟨[], rfl⟩
  | cons d l ih =>
      obtain ⟨a, ha⟩ := h d List.mem_cons_self
      obtain ⟨records, hrecords⟩ := ih fun e he => h e (List.mem_cons_of_mem d he)
      exact ⟨a :: records, by rw [List.map_cons, List.map_cons, ha, hrecords]⟩

theorem mapM_eq_some {l : List Document} {records : List α} (h : l.map of = records.map some) :
    l.mapM of = some records := by
  induction l generalizing records with
  | nil =>
      cases records with
      | nil => rfl
      | cons a records => cases h
  | cons d l ih =>
      cases records with
      | nil => cases h
      | cons a records =>
          obtain ⟨hd, hl⟩ := List.cons.inj h
          rw [List.mapM_cons, hd, ih hl]
          rfl

/-- In a list of the documents, each can be read, and what is read are the values. -/
theorem Reads.records (h : Reads of ds t) {found : List Document} (hfound : ↑found = ds) :
    ∃ records : List α, found.map of = records.map some ∧ records.Perm t.values := by
  have hperm : (found.map of).Perm (t.values.map some) := by
    rw [← hfound] at h
    exact Multiset.coe_eq_coe.mp h
  obtain ⟨records, hrecords⟩ : ∃ records : List α, found.map of = records.map some := by
    refine exists_records fun d hd => ?_
    obtain ⟨k, a, -, ha⟩ := h.value (hfound ▸ Multiset.mem_coe.mpr hd)
    exact ⟨a, ha⟩
  rw [hrecords] at hperm
  exact ⟨records, hrecords, (List.map_perm_map_iff (Option.some_injective α)).mp hperm⟩

theorem Reads.card (h : Reads of ds t) : ds.card = t.values.length := by
  have hcard := congrArg Multiset.card h
  rw [Multiset.card_map, Multiset.card_map] at hcard
  exact hcard

/-- The documents of all collections hold the records of the tables. -/
structure Mirrors (now : Document.Holdings) (s : Memory) : Prop where
  groups : Reads Group.ofDocument? (now .groups) s.groups
  members : Reads Member.ofDocument? (now .members) s.members
  namespaces : Reads Namespace.ofDocument? (now .namespaces) s.namespaces
  users : Reads User.ofDocument? (now .users) s.users

namespace Mirrors

variable {now : Document.Holdings} {s : Memory}

theorem empty (h : ∀ c, now c = 0) : Mirrors now {} where
  groups := h .groups ▸ reads_empty
  members := h .members ▸ reads_empty
  namespaces := h .namespaces ▸ reads_empty
  users := h .users ▸ reads_empty

theorem set_groups (h : Mirrors now s) {ds : Multiset Document} {t : Table Group}
    (ht : Reads Group.ofDocument? ds t) :
    Mirrors (Function.update now .groups ds) { s with groups := t } :=
  ⟨ht, h.members, h.namespaces, h.users⟩

theorem set_members (h : Mirrors now s) {ds : Multiset Document} {t : Table Member}
    (ht : Reads Member.ofDocument? ds t) :
    Mirrors (Function.update now .members ds) { s with members := t } :=
  ⟨h.groups, ht, h.namespaces, h.users⟩

theorem set_namespaces (h : Mirrors now s) {ds : Multiset Document} {t : Table Namespace}
    (ht : Reads Namespace.ofDocument? ds t) :
    Mirrors (Function.update now .namespaces ds) { s with namespaces := t } :=
  ⟨h.groups, h.members, ht, h.users⟩

theorem set_users (h : Mirrors now s) {ds : Multiset Document} {t : Table User}
    (ht : Reads User.ofDocument? ds t) :
    Mirrors (Function.update now .users ds) { s with users := t } :=
  ⟨h.groups, h.members, h.namespaces, ht⟩

end Mirrors

end Store

end Roster
