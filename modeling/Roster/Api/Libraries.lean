/-
What libraries add to the handling of a request.

Some of what a response holds is not for the service to say.  Which of several
defects of texts is told first depends on a table with an order of its own, which may
be another one for every request; a reader of JSON has its own words for what is
wrong and says where; packed bodies are unpacked by whoever knows their formats; and the
description of the interface is generated.  Nothing is supposed of all this, except
that each defect is told, and told once.
-/
import Roster.Field
import Roster.Http.Coding
import Roster.Json.Decode

namespace Roster.Api

/-- What libraries add to the handling of one request. -/
structure Libraries where
  /-- The order in which defects are told. -/
  order : List Field.Defect → List Field.Defect
  order_perm : ∀ defects, (order defects).Perm defects
  /-- The words for errors in JSON texts. -/
  json : Json.Wording
  /-- What comes out of a packed body. -/
  unpack : Http.Coding → List UInt8 → Http.Unpacked
  /-- The description of the interface, or why it cannot be written. -/
  description : Except String Json

end Roster.Api
