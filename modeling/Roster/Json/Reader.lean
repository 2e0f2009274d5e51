/-
Reading a JSON text.

The reader takes one token at a time and keeps the arrays and objects that are
still open on a stack, so its depth does not depend on that of the text.  A text
is read either whole, or for a few named members of the outermost object: what
other members hold is checked for its form only, and a string without a text
does no harm there.
-/
import Roster.Json.Token

namespace Roster.Json

/-- An array or object that is still open; what it holds so far is given last first. -/
inductive Frame where
  | items (reversed : List Json)
  | members (reversed : List (String × Json))
  | member (reversed : List (String × Json)) (name : String)

/-- What may come next. -/
inductive Next where
  | value
  | valueOrEnd
  | name
  | nameOrEnd
  | colon
  | commaOrEnd
  | nothing

/-- The state of the reader: the open frames, innermost first, what may come next,
and the value once the text is complete. -/
structure Reader where
  stack : List Frame
  next : Next
  value : Option Json

namespace Reader

/-- Before the first token. -/
def start : Reader := ⟨[], .value, none⟩

/-- Puts a complete value in its place. -/
def put (v : Json) : List Frame → Option Reader
  | [] => some ⟨[], .nothing, some v⟩
  | .items vs :: r => some ⟨.items (v :: vs) :: r, .commaOrEnd, none⟩
  | .member ms name :: r => some ⟨.members ((name, v) :: ms) :: r, .commaOrEnd, none⟩
  | .members _ :: _ => none

/-- Takes the name of a member. -/
def putName (name : String) : List Frame → Option Reader
  | .members ms :: r => some ⟨.member ms name :: r, .colon, none⟩
  | _ => none

/-- The token stands inside a member of the outermost object that is not asked for. -/
def isSkipped (known : Option (List String)) (stack : List Frame) : Bool :=
  match known, stack.getLast? with
  | some names, some (.member _ name) => !names.contains name
  | _, _ => false

/-- The string of a token; one without a text counts as empty where it is skipped. -/
def stringOf? (known : Option (List String)) (stack : List Frame) : Token → Option String
  | .string s => some s
  | .textless => if isSkipped known stack then some "" else none
  | _ => none

/-- Takes a token where a value may start. -/
def takeValue (known : Option (List String)) (stack : List Frame) : Token → Option Reader
  | .atom v => put v stack
  | .openBracket => some ⟨.items [] :: stack, .valueOrEnd, none⟩
  | .openBrace => some ⟨.members [] :: stack, .nameOrEnd, none⟩
  | t => (stringOf? known stack t).bind fun s => put (.string s) stack

/-- Closes the innermost frame. -/
def close : Token → List Frame → Option Reader
  | .closeBracket, .items vs :: r => put (.array vs.reverse) r
  | .closeBrace, .members ms :: r => put (.object ms.reverse) r
  | _, _ => none

/-- Takes one token; `none` if it may not stand here. -/
def step (known : Option (List String)) (r : Reader) (t : Token) : Option Reader :=
  match r.next, t with
  | .value, t => takeValue known r.stack t
  | .valueOrEnd, .closeBracket => close .closeBracket r.stack
  | .valueOrEnd, t => takeValue known r.stack t
  | .name, t => (stringOf? known r.stack t).bind (putName · r.stack)
  | .nameOrEnd, .closeBrace => close .closeBrace r.stack
  | .nameOrEnd, t => (stringOf? known r.stack t).bind (putName · r.stack)
  | .colon, .colon => some { r with next := .value }
  | .commaOrEnd, .comma =>
      match r.stack with
      | .items _ :: _ => some { r with next := .value }
      | .members _ :: _ => some { r with next := .name }
      | _ => none
  | .commaOrEnd, t => close t r.stack
  | _, _ => none

/-- Takes all tokens. -/
def run (known : Option (List String)) : Reader → List Token → Option Json
  | r, [] => match r.next with
      | .nothing => r.value
      | _ => none
  | r, t :: ts => match step known r t with
      | some r' => run known r' ts
      | none => none

end Reader

/-- The value of a JSON text, given as bytes; `none` if the text is not well formed. -/
def read? (text : List UInt8) : Option Json :=
  (tokens? text).bind (Reader.run none .start)

/-! ## Sound texts -/

/-- The most arrays and objects that may stand inside each other. -/
def maxDepth : Nat := 127

/-- No more than `maxDepth` arrays and objects are open at once, `depth` of them before
the first token. -/
def isShallow (depth : Nat) : List Token → Bool
  | [] => true
  | .openBracket :: r | .openBrace :: r => depth < maxDepth && isShallow (depth + 1) r
  | .closeBracket :: r | .closeBrace :: r => isShallow (depth - 1) r
  | _ :: r => isShallow depth r

/-- A number that is no number of floating point is not sound. -/
def Token.isFinite : Token → Bool
  | .atom (.number n) => n.isFinite
  | _ => true

/-- The text is well formed, not nested too deep, and has no number that is too large. -/
def isSound (text : List UInt8) : Bool :=
  match tokens? text with
  | some tokens =>
      (Reader.run none .start tokens).isSome && isShallow 0 tokens && tokens.all Token.isFinite
  | none => false

/-! ## Parts of texts -/

/-- The value of a JSON text of which only the named members of the outermost object
are looked at. -/
def readMembers? (names : List String) (text : List UInt8) : Option Json :=
  (tokens? text).bind (Reader.run (some names) .start)

end Roster.Json
