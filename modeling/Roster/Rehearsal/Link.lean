/-
A link to a document server that can be made to fail.

The link keeps a record of the requests.  It can be told which requests are
refused in the place of the server.  A commit that is refused takes back what the
transaction has done; an abort that is refused leaves it.
-/
import Roster.Document.Server
import Roster.Rehearsal.Stage
import Roster.Store.Documents

namespace Roster.Rehearsal

open Document (Collection Refusal Request Server)

/-- A refusal to come. -/
structure Outage where
  /-- The name of the command that is refused. -/
  command : String
  /-- The name of the collection that the command concerns, if not any will do. -/
  collection : Option String
  refusal : Refusal
deriving DecidableEq, Repr

/-- A request as it went over the link. -/
structure Passage where
  request : Request
  /-- The request started a transaction. -/
  starts : Bool
  /-- The code of the outage that refused it. -/
  outage : Option Int
  /-- What was to be written was refused. -/
  writeRefused : Bool
deriving Repr

/-- The name of a command. -/
def commandName : Document.Command → String
  | .createIndexes .. => "createIndexes"
  | .find .. => "find"
  | .count .. => "count"
  | .insert .. => "insert"
  | .update .. => "update"
  | .delete .. => "delete"

/-- The name of a request. -/
def requestName : Request → String
  | .single c | .within c => commandName c
  | .commit => "commitTransaction"
  | .abort => "abortTransaction"

/-- The collection that a request concerns. -/
def requestCollection? : Request → Option Collection
  | .single c | .within c => some c.collection
  | .commit | .abort => none

/-- A refusal is meant for a request. -/
def Outage.fits (o : Outage) (q : Request) : Bool :=
  o.command == requestName q &&
    match o.collection with
    | none => true
    | some name => (requestCollection? q).any (·.name == name)

/-- A server with what is known of the link to it. -/
structure Link where
  server : Server := {}
  outages : List Outage := []
  /-- The requests so far, the last one first. -/
  passages : List Passage := []
deriving Inhabited

namespace Link

/-- What is left on the server of a request that the link refuses. -/
def afterOutage : Request → Server → Server
  | .single _, s => s
  | .within _, s => s.opened
  | .commit, s => s.restored
  | .abort, s => s.kept

/-- A request starts a transaction. -/
def starts (s : Server) : Request → Bool
  | .within _ => s.saved.isNone
  | _ => false

/-- The outcome is that a write was refused. -/
def isWriteRefusal : Except Refusal α → Bool
  | .error r => r.kind == .write
  | .ok _ => false

/-- Answers a request. -/
def answer (q : Request) (l : Link) : q.Answer × Link :=
  let first := starts l.server q
  match pick? (·.fits q) l.outages with
  | some p =>
      let refusal := p.found.refusal
      let passage := ⟨q, first, some refusal.code, refusal.kind == .write⟩
      (.error refusal,
        { server := afterOutage q l.server, outages := p.others,
          passages := passage :: l.passages })
  | none =>
      let (reply, server) := l.server.answer q
      (reply, { l with server, passages := ⟨q, first, none, isWriteRefusal reply⟩ :: l.passages })

/-- Runs a plan of requests. -/
def run (p : Store.Documents.Exchange α) (l : Link) : Except Fault α × Link := p.run answer l

/-- The store on the server at the other end. -/
def backend : Backend Link := fun c l => run (Store.Documents.plan c) l

end Link

end Roster.Rehearsal
