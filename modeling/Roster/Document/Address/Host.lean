/-
Hosts in addresses of document servers.

A host is a socket in the file system, a name, or an address of the sixth version
of the internet protocol between brackets; a port may stand behind the last two.
-/
import Roster.Decimal.Word
import Roster.Text.Percent
import Roster.Text.Pieces

namespace Roster.Document.Address

/-! ## Numeric addresses -/

/-- A number from 0 to 255 without noughts before it. -/
def isOctet (cs : List Char) : Bool :=
  !cs.isEmpty && cs.length ≤ 3 && cs.all Char.isDigit &&
    (cs.head? != some '0' || cs.length == 1) && Text.naturalOf cs < 256

/-- Four numbers between points. -/
def isQuad (cs : List Char) : Bool :=
  let octets := Text.pieces '.' cs
  octets.length == 4 && octets.all isOctet

/-- One to four hexadecimal digits. -/
def isGroup (cs : List Char) : Bool :=
  !cs.isEmpty && cs.length ≤ 4 && cs.all fun c => (Text.hexDigit? c).isSome

/-- How many groups stand between colons; four numbers between points may take the place
of the last two. -/
def groups? : List (List Char) → Option Nat
  | [] => some 0
  | [last] => if isGroup last then some 1 else if isQuad last then some 2 else none
  | first :: rest => if isGroup first then (groups? rest).map (· + 1) else none

/-- What stands before and after the first two colons in a row. -/
def splitGap? : List Char → Option (List Char × List Char)
  | ':' :: ':' :: r => some ([], r)
  | c :: r => (splitGap? r).map fun (before, after) => (c :: before, after)
  | [] => none

/-- How many groups stand at one side of a gap, which may be empty. -/
def sideGroups? (cs : List Char) : Option Nat :=
  if cs.isEmpty then some 0 else groups? (Text.pieces ':' cs)

/-- Eight groups, of which one run may be left out between two colons. -/
def isNumericAddress (cs : List Char) : Bool :=
  match splitGap? cs with
  | none => groups? (Text.pieces ':' cs) == some 8
  | some (before, after) =>
      match sideGroups? before, sideGroups? after with
      | some m, some n => !before.contains '.' && m + n < 8
      | _, _ => false

/-! ## Hosts -/

/-- A host. -/
inductive Host where
  | socket (path : String)
  | server (name : String) (port : Option UInt16)
deriving DecidableEq, Repr

/-- A port is a number from 1 to 65535. -/
def port? (cs : List Char) : Option UInt16 :=
  match Decimal.word (String.ofList cs) with
  | .ok n => if 0 < n.toNat ∧ n.toNat < UInt16.size then some n.toNat.toUInt16 else none
  | .error _ => none

/-- What a host with a name is, given the text behind the name. -/
def server? (name : List Char) : List Char → Option Host
  | [] => some (.server (String.ofList name) none)
  | ':' :: r => (port? r).map fun p => .server (String.ofList name) (some p)
  | _ => none

/-- The ending of the paths of sockets. -/
def socketEnding : List Char := ".sock".toList

/-- The host that a text spells. -/
def Host.ofChars? (cs : List Char) : Option Host :=
  if socketEnding.isSuffixOf cs then (Text.percentText? (String.ofList cs)).map .socket
  else match cs with
    | '[' :: r =>
        let name := r.takeWhile (· ≠ ']')
        match r.drop name.length with
        | _ :: rest => if isNumericAddress name then server? name rest else none
        | [] => none
    | cs =>
        let name := cs.takeWhile (· ≠ ':')
        if name.isEmpty then none else server? name (cs.drop name.length)

end Roster.Document.Address
