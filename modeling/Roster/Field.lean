/-
The texts that a client may set: names, slugs and descriptions of groups.

What can be wrong with each of them, how it is worded, and the rules for names
and descriptions.  The rule for slugs is in `Roster.Slug`.
-/
import Roster.Text.Blank

namespace Roster

/-- The fields of a group that a client sets. -/
inductive Field where
  | name
  | slug
  | description
deriving DecidableEq, Repr

/-- The word by which a field is known. -/
def Field.label : Field → String
  | .name => "name"
  | .slug => "slug"
  | .description => "description"

namespace Field

/-- The most characters in a slug, and in a name. -/
def maxLength : Nat := 99

/-- The most characters in a description. -/
def maxDescription : Nat := 500

/-- What can be wrong with the text of a field. -/
inductive Defect where
  | slugLength
  | slugCharacters
  | slugDoubledSeparator
  | slugEnding
  | nameLength
  | nameNull
  | descriptionLength
  | descriptionNull
deriving DecidableEq, Repr

/-- The field in which a defect occurs. -/
def Defect.field : Defect → Field
  | .slugLength | .slugCharacters | .slugDoubledSeparator | .slugEnding => .slug
  | .nameLength | .nameNull => .name
  | .descriptionLength | .descriptionNull => .description

/-- The wording of a defect. -/
def Defect.message : Defect → String
  | .slugLength => s!"slug must be between 1 and {maxLength} characters long"
  | .slugCharacters =>
      "slug must start with a letter or number and contain only letters, numbers, '-', '_' and '.'"
  | .slugDoubledSeparator => "slug must not contain two consecutive '-', '_' or '.' characters"
  | .slugEnding => "slug must not end with '.git' or '.atom'"
  | .nameLength => s!"name must be between 1 and {maxLength} characters long"
  | .nameNull => "name must not contain null bytes"
  | .descriptionLength => s!"description must be at most {maxDescription} characters long"
  | .descriptionNull => "description must not contain null bytes"

/-- A name has a character that is no white space, at most `maxLength` characters
in all, and no null character. -/
def nameDefect? (name : String) : Option Defect :=
  let cs := name.toList
  if cs.all Text.isBlank ∨ maxLength < cs.length then some .nameLength
  else if '\x00' ∈ cs then some .nameNull
  else none

/-- A description has at most `maxDescription` characters and no null character. -/
def descriptionDefect? (description : String) : Option Defect :=
  let cs := description.toList
  if maxDescription < cs.length then some .descriptionLength
  else if '\x00' ∈ cs then some .descriptionNull
  else none

end Field

end Roster
