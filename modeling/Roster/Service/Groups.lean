/-
Groups: listing, creating, looking up, changing and deleting them.
-/
import Roster.Page
import Roster.Service.Access

namespace Roster

/-- What a new group is made of. -/
structure Group.Draft where
  name : String := ""
  slug : String := ""
  description : Option String := none
deriving DecidableEq, Repr

/-- The fields of a group that are to change; an empty description takes it away. -/
structure Group.Patch where
  name : Option String := none
  slug : Option String := none
  description : Option String := none
deriving DecidableEq, Repr

namespace Group

/-- A description that is empty counts as none. -/
def describe (text : String) : Option String := if text = "" then none else some text

/-- Nothing is to change. -/
def Patch.isEmpty (p : Patch) : Bool := p.name.isNone && p.slug.isNone && p.description.isNone

/-- The group with the fields changed that the patch names. -/
def Patch.apply (p : Patch) (g : Group) : Group :=
  { g with
    name := p.name.getD g.name
    slug := p.slug.getD g.slug
    description := match p.description with
      | some text => describe text
      | none => g.description }

/-- The group that a user makes of a draft. -/
def ofDraft (d : Draft) (id userId : String) (now : Int) : Group :=
  { id, name := d.name, slug := d.slug, description := d.description.bind describe,
    createdBy := userId, createTime := now, updateTime := now }

end Group

namespace Service.Groups

/-- A page of the list of all groups. -/
def list (page : Page.Request) : Service (List Group × Page.Summary) := do
  let total ← call .countGroups
  let groups ← call (.pageGroups page.offset page.perPage)
  return (groups, page.summary total)

/-- Creates a group, of which the caller becomes the owner. -/
def create (c : Caller) (d : Group.Draft) : Service Group := do
  let userId ← requireLogin c
  let time ← now
  let id ← freshId
  let group := Group.ofDraft d id userId time
  call (.insertGroup group (.new group.id userId .owner time))
  return group

/-- The group with a slug. -/
def get (slug : String) : Service Group := requireGroup slug

/-- Changes the fields of a group that the patch names. -/
def update (c : Caller) (slug : String) (p : Group.Patch) : Service Group := do
  if p.isEmpty then .fail .emptyPatch
  else
    let _ ← requireLogin c
    let group ← requireGroup slug
    requireRole group c .editor
    let time ← now
    let changed := { p.apply group with updateTime := time }
    call (.updateGroup changed)
    return changed

/-- Deletes a group; that there is none is no failure. -/
def delete (c : Caller) (slug : String) : Service Unit := do
  let _ ← requireLogin c
  match ← call (.findGroup slug) with
  | none => return ()
  | some group =>
      requireRole group c .owner
      let _ ← call (.deleteGroup group.id)
      return ()

end Service.Groups

end Roster
