/-
The settings of the service.

Each section may be missing; what is then used in its place is said here, and so
is what may be left out of a section that is there.
-/
import Roster.Identity
import Roster.Settings.Place

namespace Roster

namespace Settings

/-- Where records are kept. -/
inductive StoreKind where
  | documents
  | memory
deriving DecidableEq, Repr, Inhabited

namespace StoreKind

/-- The kinds of store. -/
def all : List StoreKind := [.documents, .memory]

/-- The word for a kind of store. -/
def name : StoreKind → String
  | .documents => "mongo"
  | .memory => "memory"

/-- The kind of store that a word stands for. -/
def ofName? (word : String) : Option StoreKind := all.find? (·.name == word)

end StoreKind

/-- Where the service listens. -/
structure Server where
  host : String := "127.0.0.1"
  port : UInt16 := 8000
deriving DecidableEq, Repr, Inhabited

/-- How records are kept. -/
structure Database where
  kind : StoreKind := .memory
  url : String := ""
  name : String := ""
deriving DecidableEq, Repr, Inhabited

/-- Settings of the process. -/
structure System where
  logLevel : String := "info"
deriving DecidableEq, Repr, Inhabited

end Settings

/-- The sections of the settings that were given. -/
structure Settings where
  server : Option Settings.Server := none
  database : Option Settings.Database := none
  system : Option Settings.System := none
  auth : Option Identity.Scheme := none
deriving DecidableEq, Repr, Inhabited

namespace Settings

/-- A section that was not given is as it is by default. -/
def serverInUse (s : Settings) : Server := s.server.getD {}

/-- The database section in use. -/
def databaseInUse (s : Settings) : Database := s.database.getD {}

/-- The system section in use. -/
def systemInUse (s : Settings) : System := s.system.getD {}

/-- The scheme of identities in use. -/
def authInUse (s : Settings) : Identity.Scheme := s.auth.getD {}

/-! ## Reading sections -/

/-- A field that must be there. -/
def required (read : Tree → Option α) (fields : List (String × Tree)) (name : String) : Option α :=
  (Tree.entry? fields name).bind read

/-- A field that may be left out. -/
def optional (read : Tree → Option α) (other : α) (fields : List (String × Tree))
    (name : String) : Option α :=
  match Tree.entry? fields name with
  | some t => read t
  | none => some other

/-- A port. -/
def port? (t : Tree) : Option UInt16 :=
  t.asNatural?.bind fun n => if n < UInt16.size then some n.toUInt16 else none

/-- The server section. -/
def Server.ofTree? (t : Tree) : Option Server := do
  let fields ← Tree.fields? ["host", "port"] t
  let host ← required Tree.asText? fields "host"
  let port ← required port? fields "port"
  return { host, port }

/-- The database section. -/
def Database.ofTree? (t : Tree) : Option Database := do
  let fields ← Tree.fields? ["kind", "url", "db_name"] t
  let kind ← optional (Tree.asWord? StoreKind.ofName?) .memory fields "kind"
  let url ← optional Tree.asText? "" fields "url"
  let name ← optional Tree.asText? "" fields "db_name"
  return { kind, url, name }

/-- The system section. -/
def System.ofTree? (t : Tree) : Option System := do
  let fields ← Tree.fields? ["log_level"] t
  let logLevel ← required Tree.asText? fields "log_level"
  return { logLevel }

/-- The section on identities. -/
def schemeOfTree? (t : Tree) : Option Identity.Scheme := do
  let fields ← Tree.fields? ["kind", "admin_ids"] t
  let kind ← optional (Tree.asWord? Identity.Kind.ofName?) .gateway fields "kind"
  let adminIds ← optional Tree.asTexts? [] fields "admin_ids"
  return { kind, adminIds }

/-- A section that may be missing, as the outer option says; an unreadable one is an error. -/
def section? (read : Tree → Option α) (entries : List (String × Tree)) (name : String) :
    Option (Option α) :=
  match Tree.entry? entries name with
  | none | some .nothing => some none
  | some t => (read t).map some

/-- The settings in a tree; other entries are ignored. -/
def ofTree? : Tree → Option Settings
  | .table entries => do
      let server ← section? Server.ofTree? entries "server"
      let database ← section? Database.ofTree? entries "database"
      let system ← section? System.ofTree? entries "sys"
      let auth ← section? schemeOfTree? entries "auth"
      return { server, database, system, auth }
  | _ => none

end Settings

end Roster
