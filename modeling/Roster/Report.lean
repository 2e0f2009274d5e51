/-
What a failure says.

Every failure, wherever it arises, is reported as a kind, a message and
sometimes a detail.  The kind decides the status of the response and the code in
its body; failures inside the service all look the same to a client.
-/
import Roster.Json.Basic
import Roster.Json.Position

namespace Roster

/-- The kinds of failure. -/
inductive Report.Kind where
  | notFound
  | validation
  | unauthorized
  | forbidden
  | conflict
  /-- The document server refused a command or could not be asked. -/
  | database
  | json
  | io
  | internal
deriving DecidableEq, Repr

namespace Report.Kind

/-- The status of the response that reports the failure. -/
def status : Kind → Nat
  | .validation => 422
  | .unauthorized => 401
  | .forbidden => 403
  | .notFound => 404
  | .conflict => 409
  | .database | .json | .io | .internal => 500

/-- The code in the body of the response. -/
def code (k : Kind) : Nat := 1000 + k.status

/-- Failures inside the service, of which a client learns nothing. -/
def isHidden (k : Kind) : Bool := k.status == 500

end Report.Kind

/-- A failure as it is told. -/
structure Report where
  kind : Report.Kind
  message : String
  detail : Option String := none
deriving DecidableEq, Repr

namespace Report

/-- A failure with a message that was made up elsewhere.  A position at the end of a
message about JSON is told in its plain form. -/
def ofMessage (kind : Kind) (message : String) (detail : Option String) : Report :=
  { kind, detail, message := if kind = .json then Json.Position.plain message else message }

/-- The line by which a failure is known inside the service. -/
def text (r : Report) : String :=
  match r.kind with
  | .database => "MongoDB error: " ++ r.message
  | .json => "JSON error: " ++ r.message
  | .io => "IO error: " ++ r.message
  | .internal => "Internal server error: " ++ r.message
  | _ => r.message

/-- The message that a client reads. -/
def publicMessage (r : Report) : String :=
  if r.kind.isHidden then "An unexpected error occurred" else r.message

/-- The detail that a client reads: only a failed validation has one. -/
def publicDetail (r : Report) : Option String :=
  if r.kind = .validation then r.detail else none

/-- The body of the response that reports a failure. -/
def body (r : Report) : Json :=
  .object [("error", .record
    [("code", some (.int r.kind.code)), ("message", some (.string r.publicMessage)),
     ("detail", r.publicDetail.map .string)])]

end Report

end Roster
