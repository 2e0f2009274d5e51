/-
Slugs: the words by which groups and users are addressed.

The rule that a slug obeys, the slug made of an arbitrary text, and the numbered
slugs that stand in for one already taken.  All three work on the characters of
the text.
-/
import Roster.Field
import Roster.Text.Lowercase

namespace Roster.Slug

open Roster.Field (Defect maxLength)

/-- The characters that join the runs of a slug. -/
def isSeparator (c : Char) : Bool := c == '-' || c == '_' || c == '.'

/-- A slug starts with an ASCII letter or digit, and goes on with those and separators. -/
def wellSpelled : List Char → Bool
  | [] => false
  | c :: r => c.isAlphanum && r.all fun d => d.isAlphanum || isSeparator d

/-- Two separators stand side by side. -/
def hasDoubledSeparator : List Char → Bool
  | [] | [_] => false
  | c :: d :: r => (isSeparator c && isSeparator d) || hasDoubledSeparator (d :: r)

/-- The two endings that no slug has. -/
def reservedEndings : List (List Char) := [".git".toList, ".atom".toList]

/-- The text ends in one of the reserved endings. -/
def hasReservedEnding (cs : List Char) : Bool :=
  reservedEndings.any fun ending => ending.isSuffixOf cs

/-- The first rule that a text breaks as a slug, and `none` for a slug. -/
def defect? (cs : List Char) : Option Defect :=
  if cs.length = 0 ∨ maxLength < cs.length then some .slugLength
  else if !wellSpelled cs then some .slugCharacters
  else if hasDoubledSeparator cs then some .slugDoubledSeparator
  else if hasReservedEnding cs then some .slugEnding
  else none

/-- The text is a slug. -/
def Valid (s : String) : Prop := defect? s.toList = none

instance (s : String) : Decidable (Valid s) := inferInstanceAs (Decidable (_ = _))

/-! ## The slug of a text -/

/-- The characters that a made slug keeps: lower-case letters, digits and separators. -/
def isKept (c : Char) : Bool := c.isLower || c.isDigit || isSeparator c

/-- Puts a character before a text in which no two separators stand side by side:
a separator before a separator melts into a hyphen. -/
def joinChar (c : Char) : List Char → List Char
  | [] => [c]
  | d :: r => if isSeparator c && isSeparator d then '-' :: r else c :: d :: r

/-- Each run of two or more separators becomes one hyphen. -/
def collapse (cs : List Char) : List Char := cs.foldr joinChar []

/-- What is left of a text read from its end, after separators and reserved
endings are taken off in any order as long as there are any. -/
def settleReversed : List Char → List Char
  | 't' :: 'i' :: 'g' :: '.' :: r => settleReversed r
  | 'm' :: 'o' :: 't' :: 'a' :: '.' :: r => settleReversed r
  | c :: r => if isSeparator c then settleReversed r else c :: r
  | [] => []

/-- A text without the separators and reserved endings at its end. -/
def settle (cs : List Char) : List Char := (settleReversed cs.reverse).reverse

/-- The characters of the slug made of a text, before the rule is asked. -/
def draft (cs : List Char) : List Char :=
  let lowered := Text.lowerChars (Text.trimChars cs)
  let kept := lowered.map fun c => if isKept c then c else '-'
  settle (((collapse kept).dropWhile isSeparator).take maxLength)

/-- The slug made of a text: lower case, with a hyphen for each run of other
characters, cut to length.  `none` if no letter or digit is left. -/
def ofText? (text : String) : Option String :=
  let cs := draft text.toList
  if defect? cs = none then some (String.ofList cs) else none

/-! ## Numbered slugs -/

/-- The ending `-n`. -/
def numberEnding (n : Nat) : List Char := '-' :: (toString n).toList

/-- The slug `base-n`, its base cut so that the whole keeps the length of a slug. -/
def numbered (base : String) (n : Nat) : String :=
  let ending := numberEnding n
  let head := base.toList.take (maxLength - ending.length)
  String.ofList (Text.cutEnd isSeparator head ++ ending)

end Roster.Slug
