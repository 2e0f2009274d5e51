/-
Why a request is turned down before the service sees it.
-/
import Roster.Api.Libraries
import Roster.Api.Payload

namespace Roster.Api

/-- The most bytes in the body of a request. -/
def maxBodyBytes : Nat := 2097152

/-- What is wrong with a request. -/
inductive Refusal where
  /-- The body is not declared to be JSON. -/
  | contentType
  /-- More bytes are announced than a body may have. -/
  | bodyTooLarge (bytes : UInt64)
  /-- The body cannot be unpacked. -/
  | packing (problem : String)
  /-- More bytes have come than a body may have. -/
  | contentTooLarge
  | body (text : List UInt8) (error : Json.DecodeError)
  | query (problem : Http.Query.Problem)
  | page (defect : Page.Defect)
  | fields (defects : List Field.Defect)
  /-- The id is blank in the entry at a position of the list of changes. -/
  | blankId (position : Nat)
deriving Repr

namespace Refusal

/-- A defect with its field. -/
def line (d : Field.Defect) : String := s!"{d.field.label}: {d.message}"

/-- What it is about. -/
def message : Refusal → String
  | .contentType | .bodyTooLarge _ | .packing _ | .contentTooLarge | .body .. =>
      "Invalid request body"
  | .query _ => "Invalid query parameters"
  | .page _ => "Invalid pagination parameters"
  | .fields _ | .blankId _ => "Request validation failed"

/-- What exactly is wrong. -/
def detail (lib : Libraries) : Refusal → String
  | .contentType => "Content type error"
  | .bodyTooLarge bytes =>
      s!"JSON payload ({bytes} bytes) is larger than allowed (limit: {maxBodyBytes} bytes)."
  | .packing problem => "Error that occur during reading payload: " ++ problem
  | .contentTooLarge => s!"JSON payload has exceeded limit ({maxBodyBytes} bytes)."
  | .body text error => "Json deserialize error: " ++ error.message lib.json text
  | .query problem => "Query deserialize error: " ++ problem.message
  | .page defect => defect.message
  | .fields defects => "\n".intercalate ((lib.order defects).map line)
  | .blankId position => s!"[{position}].id: must not be empty"

/-- What a refusal reports. -/
def report (lib : Libraries) (r : Refusal) : Report :=
  ⟨.validation, r.message, some (r.detail lib)⟩

/-- The failure with which a service ends. -/
def fault (lib : Libraries) (r : Refusal) : Fault := .outside (r.report lib)

end Refusal

end Roster.Api
