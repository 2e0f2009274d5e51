/-
A document server.

Each collection is a list of documents in the order in which they were added.  The
server keeps ids and unique indexes free of duplicates, and takes back what a
transaction has done when it is aborted.
-/
import Roster.Document.Command
import Roster.Pick

namespace Roster.Document

/-- The documents of all collections. -/
structure Contents where
  groups : List Document := []
  members : List Document := []
  namespaces : List Document := []
  users : List Document := []
deriving DecidableEq, Repr, Inhabited

namespace Contents

/-- The documents of a collection. -/
def get (s : Contents) : Collection → List Document
  | .groups => s.groups
  | .members => s.members
  | .namespaces => s.namespaces
  | .users => s.users

/-- Replaces the documents of a collection. -/
def set (s : Contents) (c : Collection) (ds : List Document) : Contents :=
  match c with
  | .groups => { s with groups := ds }
  | .members => { s with members := ds }
  | .namespaces => { s with namespaces := ds }
  | .users => { s with users := ds }

@[simp] theorem get_set_self (s : Contents) (c : Collection) (ds : List Document) :
    (s.set c ds).get c = ds := by
  cases c <;> rfl

theorem get_set_of_ne (s : Contents) {c c' : Collection} (ds : List Document) (h : c' ≠ c) :
    (s.set c ds).get c' = s.get c' := by
  cases c <;> cases c' <;> first | rfl | exact absurd rfl h

end Contents

/-- Two documents have the same values in all the fields. -/
def sameIn (fields : List String) (d e : Document) : Bool :=
  fields.all fun name => d.get name == e.get name

/-- A document cannot stand in a collection beside the others. -/
def clashes (c : Collection) (d : Document) (others : List Document) : Bool :=
  c.uniqueKeys.any fun fields => others.any (sameIn fields d)

namespace Contents

/-- The documents that a search finds. -/
def search (ds : List Document) (filter : Filter) (sort : Option (List String))
    (skip limit : Option UInt64) : List Document :=
  let found := ds.filter (meets filter)
  let sorted := match sort with
    | some names => sortBy names found
    | none => found
  let rest := sorted.drop ((skip.getD 0).toNat)
  match limit with
  | some n => rest.take n.toNat
  | none => rest

/-- Adds a document unless it clashes. -/
def insert (s : Contents) (c : Collection) (d : Document) : Except Refusal Contents :=
  if clashes c d (s.get c) then .error .duplicateKey else .ok (s.set c (s.get c ++ [d]))

/-- Changes the first document that meets the filter, or adds one, unless it clashes;
also says how many documents met the filter. -/
def update (s : Contents) (c : Collection) (filter : Filter) (changes : Document)
    (onInsert : Option Document) : Except Refusal (Nat × Contents) :=
  match pick? (meets filter) (s.get c) with
  | some p =>
      let changed := p.found.putAll changes
      if clashes c changed p.others then .error .duplicateKey
      else .ok (1, s.set c (p.before ++ changed :: p.after))
  | none =>
      match onInsert with
      | some more =>
          (s.insert c (((ofFilter filter).putAll more).putAll changes)).map fun s' => (0, s')
      | none => .ok (0, s)

/-- Takes away documents; also says how many. -/
def delete (s : Contents) (c : Collection) (filter : Filter) : Nat × Contents :=
  let kept := (s.get c).filter fun d => !meets filter d
  ((s.get c).length - kept.length, s.set c kept)

/-- Carries out a command. -/
def carryOut (s : Contents) : (q : Command) → Except Refusal q.Reply × Contents
  | .createIndexes .. => (.ok (), s)
  | .find c filter sort skip limit => (.ok (search (s.get c) filter sort skip limit), s)
  | .count c filter => (.ok ((s.get c).filter (meets filter)).length, s)
  | .insert c d =>
      match s.insert c d with
      | .ok s' => (.ok (), s')
      | .error r => (.error r, s)
  | .update c filter changes onInsert =>
      match s.update c filter changes onInsert with
      | .ok (n, s') => (.ok n, s')
      | .error r => (.error r, s)
  | .delete c filter => let (n, s') := s.delete c filter; (.ok n, s')

end Contents

/-- A server, with a transaction or without. -/
structure Server where
  contents : Contents := {}
  /-- The contents before the open transaction. -/
  saved : Option Contents := none
deriving DecidableEq, Repr, Inhabited

namespace Server

/-- Opens a transaction unless one is open. -/
def opened (s : Server) : Server := { s with saved := some (s.saved.getD s.contents) }

/-- Keeps what the transaction has done. -/
def kept (s : Server) : Server := { s with saved := none }

/-- Takes back what the transaction has done. -/
def restored (s : Server) : Server := { contents := s.saved.getD s.contents, saved := none }

/-- Carries out a command on the contents. -/
def carryOut (s : Server) (q : Command) : Except Refusal q.Reply × Server :=
  let (r, contents) := s.contents.carryOut q
  (r, { s with contents })

/-- Answers a request. -/
def answer : (q : Request) → Server → q.Answer × Server
  | .single c, s => s.carryOut c
  | .within c, s => s.opened.carryOut c
  | .commit, s => (.ok (), s.kept)
  | .abort, s => (.ok (), s.restored)

end Server

end Roster.Document
