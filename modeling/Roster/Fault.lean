/-
Why an operation on groups, members, namespaces and users fails.

The causes that the rules of the service and its stores know, and what each of
them reports.
-/
import Roster.Report
import Roster.Role

namespace Roster

/-- A cause of failure. -/
inductive Fault where
  /-- The caller is anonymous. -/
  | loginRequired
  /-- The caller's role in the group with this slug is too low. -/
  | roleRequired (role : Role) (slug : String)
  | emptyPatch
  | groupUnknown (slug : String)
  | groupIdUnknown (id : String)
  | namespaceUnknown (slug : String)
  | userUnknown (id : String)
  | slugTaken (slug : String)
  | groupIdTaken (id : String)
  | userIdTaken (id : String)
  /-- All slugs tried for a new user were taken. -/
  | noSlugLeft (userId : String)
  /-- The document server refused a command. -/
  | commandRefused (code : Int)
  /-- More documents to pass over than a command can say. -/
  | skipTooLarge (skip : UInt64)
  /-- A document does not hold the record that belongs in its collection. -/
  | documentUnreadable
  /-- A failure outside of the service and its stores. -/
  | outside (report : Report)
deriving DecidableEq, Repr

namespace Fault

/-- What a cause reports. -/
def report : Fault → Report
  | .loginRequired => ⟨.unauthorized, "Authentication is required for this operation", none⟩
  | .roleRequired role slug =>
      ⟨.forbidden,
       s!"The operation requires at least the '{role.name}' role in group '{slug}'", none⟩
  | .emptyPatch =>
      ⟨.validation, "At least one of name, slug or description must be provided", none⟩
  | .groupUnknown slug => ⟨.notFound, s!"Group with slug '{slug}' does not exist", none⟩
  | .groupIdUnknown id => ⟨.notFound, s!"Group with id '{id}' does not exist", none⟩
  | .namespaceUnknown slug => ⟨.notFound, s!"Namespace with slug '{slug}' does not exist", none⟩
  | .userUnknown id => ⟨.notFound, s!"User with id '{id}' does not exist", none⟩
  | .slugTaken slug => ⟨.conflict, s!"The slug '{slug}' is already in use", none⟩
  | .groupIdTaken id => ⟨.conflict, s!"Group with id '{id}' already exists", none⟩
  | .userIdTaken id => ⟨.conflict, s!"User with id '{id}' already exists", none⟩
  | .noSlugLeft userId =>
      ⟨.internal, s!"could not allocate a namespace slug for user '{userId}'", none⟩
  | .commandRefused code => ⟨.database, s!"the command was refused with code {code}", none⟩
  | .skipTooLarge skip => ⟨.database, s!"cannot skip {skip.toNat} documents", none⟩
  | .documentUnreadable => ⟨.database, "a document could not be read", none⟩
  | .outside report => report

/-- The kind of failure that a cause reports. -/
def kind (f : Fault) : Report.Kind := f.report.kind

end Fault

end Roster
