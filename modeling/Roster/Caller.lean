/-
The identity with which a request is made.
-/
import Roster.Record

namespace Roster

/-- The identity of a caller; one without an id is anonymous, whatever else it holds. -/
structure Caller where
  id : Option String := none
  isAdmin : Bool := false
  firstName : Option String := none
  lastName : Option String := none
  email : Option String := none
deriving DecidableEq, Repr, Inhabited

namespace Caller

/-- The identity that says nothing. -/
def anonymous : Caller := {}

/-- The caller is known. -/
def isKnown (c : Caller) : Bool := c.id.isSome

/-- The name by which the caller is shown. -/
def fullName (c : Caller) : Option String := Roster.fullName c.firstName c.lastName

end Caller

end Roster
