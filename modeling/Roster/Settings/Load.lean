/-
Loading settings.

Settings come from a file, and variables of the environment go over them.  The
settings of a process are set once.
-/
import Roster.Settings.Basic
import Roster.Text.Lowercase
import Roster.Toml.Reader

namespace Roster.Settings

/-- Why settings cannot be had. -/
inductive Problem where
  /-- The file cannot be read as what it should be. -/
  | file (name : String)
  /-- What was given does not make settings. -/
  | values
  | alreadySet
deriving DecidableEq, Repr

/-- The wording of a problem. -/
def Problem.message : Problem → String
  | .file name => s!"Failed to build configuration from {name}"
  | .values => "Failed to deserialize configuration"
  | .alreadySet => "AppConfig already initialized"

/-- What the name of a variable starts with, in lower case. -/
def variableStart : List Char := "app__".toList

/-- Doubled underscores stand for dots. -/
def dotted : List Char → List Char
  | '_' :: '_' :: r => '.' :: dotted r
  | c :: r => c :: dotted r
  | [] => []

/-- The setting that a variable of the environment is about. -/
def settingOfVariable? (name : String) : Option String :=
  let lower := Text.lowerChars name.toList
  if variableStart.isPrefixOf lower then
    some (String.ofList (dotted (lower.drop variableStart.length)))
  else none

/-- Sets values one after the other. -/
def putAll (t : Tree) (values : List (String × Tree)) : Tree :=
  values.foldl (fun t (name, value) => Place.put name value t) t

/-- The values that variables of the environment set. -/
def ofEnvironment (environment : List (String × String)) : List (String × Tree) :=
  environment.filterMap fun (name, value) =>
    (settingOfVariable? name).map fun setting => (setting, .text value)

/-- The values in a file; one that does not exist has none. -/
def ofFile (name : String) : Option String → Except Problem (List (String × Tree))
  | none => .ok []
  | some text => match Toml.read? text with
      | some entries => .ok entries
      | none => .error (.file name)

/-- The settings made of a file and the environment. -/
def load (name : String) (text : Option String) (environment : List (String × String)) :
    Except Problem Settings := do
  let values ← ofFile name text
  match ofTree? (putAll (.table []) (values ++ ofEnvironment environment)) with
  | some s => return s
  | none => throw .values

/-! ## The settings of a process -/

/-- The settings in use: those that were set, or the settings by default. -/
def current (slot : Option Settings) : Settings := slot.getD {}

/-- Sets the settings of a process. -/
def install (slot : Option Settings) (loaded : Except Problem Settings) :
    Except Problem (Option Settings) := do
  let s ← loaded
  match slot with
  | none => return some s
  | some _ => throw .alreadySet

end Roster.Settings
