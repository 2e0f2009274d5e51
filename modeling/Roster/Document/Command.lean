/-
What a document server can be asked.

A command concerns one collection.  It is sent by itself or within a transaction,
and a transaction ends with a commit or an abort.  The server refuses a request
with a code.
-/
import Roster.Document.Basic
import Roster.Document.Collection

namespace Roster.Document

/-- A command on a collection. -/
inductive Command where
  | createIndexes (c : Collection) (indexes : List Index)
  /-- The documents that meet the filter: sorted by some fields, after the first `skip` of
  them, and at most `limit`. -/
  | find (c : Collection) (filter : Filter) (sort : Option (List String))
      (skip limit : Option UInt64)
  /-- The number of documents that meet the filter. -/
  | count (c : Collection) (filter : Filter)
  | insert (c : Collection) (document : Document)
  /-- Sets values in the first document that meets the filter.  If there is none, and only
  if `onInsert` is given, a new document gets the values of the filter, those of `onInsert`
  and those to set. -/
  | update (c : Collection) (filter : Filter) (changes : Document) (onInsert : Option Document)
  /-- Takes away all documents that meet the filter. -/
  | delete (c : Collection) (filter : Filter)
deriving DecidableEq, Repr

namespace Command

/-- What the server says to a command: the documents found, or how many were counted,
met the filter or were taken away. -/
abbrev Reply : Command → Type
  | .createIndexes .. => Unit
  | .find .. => List Document
  | .count .. => Nat
  | .insert .. => Unit
  | .update .. => Nat
  | .delete .. => Nat

/-- The collection that a command concerns. -/
def collection : Command → Collection
  | .createIndexes c _ | .find c .. | .count c _ | .insert c _ | .update c .. | .delete c _ => c

end Command

/-- In what way a request failed. -/
inductive Refusal.Kind where
  /-- The command as a whole was refused. -/
  | command
  /-- What was to be written was refused. -/
  | write
  /-- The write was made, but not as safely as asked. -/
  | writeConcern
  /-- A failure on the way to the server. -/
  | other
deriving DecidableEq, Repr

/-- Why a request was refused. -/
structure Refusal where
  kind : Refusal.Kind
  code : Int
deriving DecidableEq, Repr

namespace Refusal

/-- The code for values that are there already. -/
def duplicateCode : Int := 11000

/-- A unique index does not allow the values. -/
def duplicateKey : Refusal := ⟨.write, duplicateCode⟩

/-- The refusal says that values are there already. -/
def isDuplicateKey (r : Refusal) : Bool :=
  (r.kind == .write || r.kind == .command) && r.code == duplicateCode

end Refusal

/-- A request to the server. -/
inductive Request where
  | single (c : Command)
  /-- A command of the transaction, which starts with its first command. -/
  | within (c : Command)
  | commit
  | abort
deriving DecidableEq, Repr

namespace Request

/-- What the server says to a request that is not refused. -/
abbrev Reply : Request → Type
  | .single c | .within c => c.Reply
  | .commit | .abort => Unit

/-- The outcome of a request. -/
abbrev Answer (q : Request) : Type := Except Refusal q.Reply

end Request

end Roster.Document
