/-
What clients send.

The bodies of requests and the fields of queries: how they are read, and which
rules the texts in them obey.  Fields are judged all at once, so that a client
learns of every defect.
-/
import Roster.Http.MediaType
import Roster.Http.Query
import Roster.Record.Shape
import Roster.Service.Groups
import Roster.Service.Members
import Roster.Slug

namespace Roster

open Json

/-! ## Bodies -/

namespace Group

/-- How the body that asks for a new group is read. -/
def Draft.shape : Shape Draft where
  name := "GroupPostRequest"
  fields := ["name", "slug", "description"]
  required := ["name", "slug"]
  start := {}
  set _ d
    | "name", v => return { d with name := ← asString v }
    | "slug", v => return { d with slug := ← asString v }
    | "description", v => return { d with description := ← asOptionalString v }
    | _, _ => return d

/-- How the body that changes a group is read; it has no other fields. -/
def Patch.shape : Shape Patch where
  name := "GroupPatchRequest"
  fields := ["name", "slug", "description"]
  required := []
  strict := true
  start := {}
  set _ p
    | "name", v => return { p with name := ← asOptionalString v }
    | "slug", v => return { p with slug := ← asOptionalString v }
    | "description", v => return { p with description := ← asOptionalString v }
    | _, _ => return p

/-- The defects of texts that may be missing. -/
def textDefects (name slug description : Option String) : List Field.Defect :=
  [name.bind Field.nameDefect?, slug.bind fun s => Slug.defect? s.toList,
   description.bind Field.descriptionDefect?].filterMap fun d => d

/-- The defects of the texts for a new group. -/
def Draft.defects (d : Draft) : List Field.Defect :=
  textDefects (some d.name) (some d.slug) d.description

/-- The defects of the texts that are to change. -/
def Patch.defects (p : Patch) : List Field.Defect := textDefects p.name p.slug p.description

end Group

namespace Member.Change

/-- How an entry of the list that changes members is read; it has no other fields. -/
def shape : Shape Change where
  name := "GroupMemberPatchItem"
  fields := ["id", "role"]
  required := ["id", "role"]
  strict := true
  start := ⟨"", .viewer⟩
  set source c
    | "id", v => return { c with userId := ← asString v }
    | "role", v => return { c with role := ← Role.ofJson source v }
    | _, _ => return c

/-- The list that changes members. -/
def readAll (text : List UInt8) : Decoded (List Change) :=
  decodeText none (asList (shape.decode .text)) text

/-- The position of the first entry whose id is blank. -/
def blankId? (changes : List Change) : Option Nat :=
  changes.findIdx? fun c => c.userId.toList.all Text.isBlank

end Member.Change

/-! ## Queries -/

namespace Page

/-- The numbers of a page as they stand in a query. -/
structure Asked where
  page : Option UInt64 := none
  perPage : Option UInt64 := none
deriving DecidableEq, Repr

/-- Takes one field of a query. -/
def Asked.take (a : Asked) : String × String → Except Http.Query.Problem Asked
  | ("page", v) => return { a with page := ← Http.Query.once "page" a.page (Http.Query.word v) }
  | ("per_page", v) =>
      return { a with perPage := ← Http.Query.once "per_page" a.perPage (Http.Query.word v) }
  | _ => return a

/-- The numbers of a page in a query. -/
def Asked.ofQuery (query : String) : Except Http.Query.Problem Asked :=
  (Http.Query.pairs query).foldlM Asked.take {}

end Page

/-- The role with a name. -/
def Role.ofQueryValue (value : String) : Except Http.Query.Problem Role :=
  match Role.ofName? value with
  | some r => .ok r
  | none => .error (.unknownVariant value (Role.all.map Role.name))

/-- The least role that a query asks for. -/
def Role.minimumOfQuery (query : String) : Except Http.Query.Problem (Option Role) :=
  (Http.Query.pairs query).foldlM (fun slot (name, value) =>
    if name = "minimum_role" then Http.Query.once name slot (Role.ofQueryValue value)
    else .ok slot) none

/-- The email address that a query asks for. -/
def User.emailOfQuery (query : String) : Except Http.Query.Problem (Option String) :=
  (Http.Query.pairs query).foldlM (fun slot (name, value) =>
    if name = "exact_email" then Http.Query.once name slot (.ok value) else .ok slot) none

end Roster
