/-
# What stands in a target

A target is an origin, a path and perhaps a query.  The origin may be missing, or it is a
scheme with an authority (`Origin`); the path starts behind it, wherever that is
(`localTarget_of_origin`).  So in the place of a base path at the start of the path there
can be another one (`rebase`): the path goes on as before, and the query is the same.
-/
import Roster.Http.Message
import Roster.Http.Path
import Roster.Proofs.Text.Percent

namespace Roster

/-! ## Paths below a base path -/

namespace Http.Path

variable {base path rest : List Char}

/-- What lies below a base path starts with a slash, or there is nothing. -/
def Below (rest : List Char) : Prop := rest = [] ∨ ∃ r, rest = '/' :: r

theorem below?_eq_some_iff :
    below? base path = some rest ↔ path = base ++ rest ∧ Below rest := by
  constructor
  · intro h
    unfold below? at h
    split at h
    · next hbase =>
        obtain ⟨tail, rfl⟩ := List.isPrefixOf_iff_prefix.mp hbase
        rw [List.drop_left] at h
        cases tail with
        | nil =>
            cases h
            exact ⟨rfl, .inl rfl⟩
        | cons c tail =>
            simp only [Option.ite_none_right_eq_some, Option.some.injEq] at h
            obtain ⟨rfl, rfl⟩ := h
            exact ⟨rfl, .inr ⟨tail, rfl⟩⟩
    · cases h
  · rintro ⟨rfl, h⟩
    have hbase : base.isPrefixOf (base ++ rest) := by simp
    rw [below?, if_pos hbase, List.drop_left]
    rcases h with rfl | ⟨tail, rfl⟩
    · rfl
    · exact if_pos rfl

/-- Decoding keeps what is below a plain base path below it. -/
theorem Below.matched (h : Below rest) : Below (matched (String.ofList rest)).toList := by
  rcases h with rfl | ⟨tail, rfl⟩
  · exact .inl Text.toList_percentDecoded_nil
  · exact .inr ⟨_, Text.toList_percentDecoded_cons (by decide) tail⟩

end Http.Path

/-! ## Targets -/

namespace Http.Request

/-- What may stand in front of the path: nothing, or a scheme and an authority. -/
inductive Origin : List Char → Prop
  | none : Origin []
  | address {scheme authority : List Char} (hscheme : ∀ c ∈ scheme, isSchemeChar c)
      (hauthority : ∀ c ∈ authority, endsAuthority c = false) :
      Origin (scheme ++ "://".toList ++ authority)

variable {r : Request} {origin cs : List Char}

/-- The path starts behind the origin. -/
theorem localTarget_of_origin (h : Origin origin) (ht : r.target.toList = origin ++ '/' :: cs) :
    r.localTarget = '/' :: cs := by
  unfold localTarget
  rw [ht]
  cases h with
  | none => rfl
  | @address scheme authority hscheme hauthority =>
      have hdrop : (scheme ++ "://".toList ++ authority ++ '/' :: cs).dropWhile isSchemeChar =
          ':' :: '/' :: '/' :: (authority ++ '/' :: cs) := by
        rw [List.append_assoc, List.append_assoc, List.dropWhile_append_of_pos hscheme]
        rfl
      have hpath : (authority ++ '/' :: cs).dropWhile (fun c => !endsAuthority c) = '/' :: cs := by
        rw [List.dropWhile_append_of_pos fun c hc => by rw [hauthority c hc]; rfl]
        rfl
      split
      · next rest hslash =>
          -- A scheme holds no slash, and the colon behind it is none.
          cases scheme with
          | nil => cases hslash
          | cons c scheme =>
              cases hslash
              exact absurd (hscheme '/' List.mem_cons_self) (by decide)
      · rw [hdrop]
        exact hpath

/-- A path that starts with a slash stands behind an origin. -/
theorem exists_origin (h : r.localTarget = '/' :: cs) :
    ∃ origin, Origin origin ∧ r.target.toList = origin ++ r.localTarget := by
  unfold localTarget at h ⊢
  split at h
  · next rest ht => exact ⟨[], .none, ht⟩
  · split at h
    · next rest hrest =>
        have hscheme : ∀ c ∈ r.target.toList.takeWhile isSchemeChar, isSchemeChar c :=
          List.all_eq_true.mp List.all_takeWhile
        have hauthority : ∀ c ∈ rest.takeWhile (fun c => !endsAuthority c),
            endsAuthority c = false := fun c hc => by
          simpa using List.all_eq_true.mp List.all_takeWhile c hc
        refine ⟨_, .address hscheme hauthority, ?_⟩
        rw [List.append_assoc, List.takeWhile_append_dropWhile, List.append_assoc]
        exact (List.takeWhile_append_dropWhile.symm.trans (congrArg _ hrest))
    · cases h

/-- The character does not end the path. -/
def ofPath (c : Char) : Bool := c ≠ '?' && c ≠ '#'

theorem toList_path (r : Request) : r.path.toList = r.localTarget.takeWhile ofPath :=
  String.toList_ofList

/-- What stands in front of the path. -/
def front (r : Request) : List Char :=
  r.target.toList.take (r.target.toList.length - r.localTarget.length)

/-- The request with another base path in the place of the one that its path starts with. -/
def rebase (base base' : String) (r : Request) : Request :=
  { r with target := String.ofList (r.front ++ (base'.toList ++ r.localTarget.drop base.length)) }

theorem front_of_slash (h : r.localTarget = '/' :: cs) :
    Origin r.front ∧ r.target.toList = r.front ++ r.localTarget := by
  obtain ⟨origin, horigin, ht⟩ := exists_origin h
  have hfront : r.front = origin := by
    rw [front, ht, List.length_append, Nat.add_sub_cancel, List.take_left]
  exact ⟨hfront ▸ horigin, hfront ▸ ht⟩

/-- A text that is a base path wherever it stands: it starts with a slash, and none of its
characters begins an escape, a query or a fragment. -/
structure IsBase (base : String) : Prop where
  slash : ∃ cs, base.toList = '/' :: cs
  plain : ∀ c ∈ base.toList, Text.Plain c
  ofPath : ∀ c ∈ base.toList, ofPath c

variable {base base' : String} {tail rest : List Char}

theorem IsBase.front (hbase : IsBase base) (h : r.localTarget = base.toList ++ tail) :
    Origin r.front ∧ r.target.toList = r.front ++ r.localTarget := by
  obtain ⟨cs, hslash⟩ := hbase.slash
  have hhead : r.localTarget = '/' :: (cs ++ tail) := by rw [h, hslash, List.cons_append]
  exact front_of_slash hhead

/-- One base path takes the place of the other: what stands in front of it and behind it stays. -/
theorem target_rebase (hbase : IsBase base) (base' : String)
    (h : r.localTarget = base.toList ++ tail) :
    r.target.toList = r.front ++ (base.toList ++ tail) ∧
      (r.rebase base base').target.toList = r.front ++ (base'.toList ++ tail) := by
  constructor
  · rw [← h]
    exact (hbase.front h).2
  · rw [rebase, String.toList_ofList, h, ← String.length_toList, List.drop_left]

theorem localTarget_rebase (hbase : IsBase base) (hbase' : IsBase base')
    (h : r.localTarget = base.toList ++ tail) :
    (r.rebase base base').localTarget = base'.toList ++ tail := by
  obtain ⟨cs', hslash'⟩ := hbase'.slash
  have ht := (target_rebase hbase base' h).2
  rw [hslash', List.cons_append] at ht
  rw [localTarget_of_origin (hbase.front h).1 ht, hslash', List.cons_append]

/-- The characters of a base path are in the path. -/
theorem path_of_localTarget (hbase : IsBase base) (h : r.localTarget = base.toList ++ tail) :
    r.path.toList = base.toList ++ tail.takeWhile ofPath := by
  rw [toList_path, h, List.takeWhile_append_of_pos hbase.ofPath]

/-- And none of them is in the query. -/
theorem query_of_localTarget (hbase : IsBase base) (h : r.localTarget = base.toList ++ tail) :
    r.query = String.ofList (((tail.takeWhile (· ≠ '#')).dropWhile (· ≠ '?')).drop 1) := by
  have hchars : ∀ c ∈ base.toList, c ≠ '?' ∧ c ≠ '#' := fun c hc => by
    simpa [ofPath] using hbase.ofPath c hc
  have hfragment : ∀ c ∈ base.toList, decide (c ≠ '#') = true := fun c hc =>
    decide_eq_true (hchars c hc).2
  have hquery : ∀ c ∈ base.toList, decide (c ≠ '?') = true := fun c hc =>
    decide_eq_true (hchars c hc).1
  rw [query, h, List.takeWhile_append_of_pos hfragment, List.dropWhile_append_of_pos hquery]

/-- A path that lies below a base path is that of a target that goes on behind the base path. -/
theorem exists_tail (hbase : IsBase base)
    (h : Http.Path.below? base.toList r.path.toList = some rest) :
    ∃ tail, r.localTarget = base.toList ++ tail ∧ tail.takeWhile ofPath = rest := by
  obtain ⟨hpath, -⟩ := Http.Path.below?_eq_some_iff.mp h
  have hlocal : r.localTarget = base.toList ++ (rest ++ r.localTarget.dropWhile ofPath) := by
    rw [← List.append_assoc, ← hpath, toList_path, List.takeWhile_append_dropWhile]
  have hpath' := path_of_localTarget hbase hlocal
  rw [hpath] at hpath'
  exact ⟨_, hlocal, (List.append_cancel_left hpath').symm⟩

end Http.Request

end Roster
