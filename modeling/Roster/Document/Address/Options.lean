/-
Options in addresses of document servers.

Options stand behind a question mark, each as a name, an equals sign and a value.
Names are the same in small and capital letters.  Each value has a form of its own,
and some options go only with others.
-/
import Roster.Decimal.Word
import Roster.Text.Lowercase
import Roster.Text.Percent
import Roster.Text.Pieces

namespace Roster.Document.Address

/-- Options: their names in lower case, and their values. -/
structure Options where
  pairs : List (String × String) := []
deriving DecidableEq, Repr

/-! ## Forms of values -/

/-- The lower case of a text. -/
def lowered (s : String) : String := String.ofList (Text.lowerChars s.toList)

/-- A whole number with a sign. -/
def signed? (s : String) : Option Int :=
  match s.toList with
  | '-' :: '+' :: _ => none
  | '-' :: r => (Decimal.word (String.ofList r)).toOption.map fun n => -(n.toNat : Int)
  | _ => (Decimal.word s).toOption.map fun n => n.toNat

/-- What the value of an option has to be. -/
inductive Form where
  | any
  /-- A text that is not empty. -/
  | filled
  /-- The word `true` or `false`. -/
  | flag
  /-- A whole number from the first bound to the second. -/
  | number (least most : Int)
  /-- A whole number from the first bound to the second, or a text that spells none. -/
  | numberOrText (least most : Int)
  /-- One of some words. -/
  | word (choices : List String)
  /-- One of some words, in small or capital letters. -/
  | looseWord (choices : List String)
  /-- Names and values with a colon between them, one behind the other. -/
  | pairs
  /-- No value will do. -/
  | refused
deriving Repr

/-- Each text between commas has a colon. -/
def arePairs (value : String) : Bool :=
  (Text.pieces ',' value.toList).all fun p => p.contains ':'

/-- A value has a form. -/
def Form.admits (value : String) : Form → Bool
  | .any => true
  | .filled => value != ""
  | .flag => value == "true" || value == "false"
  | .number least most => (signed? value).any fun n => least ≤ n && n ≤ most
  | .numberOrText least most => (signed? value).all fun n => least ≤ n && n ≤ most
  | .word choices => choices.contains value
  | .looseWord choices => choices.contains (lowered value)
  | .pairs => value == "" || arePairs value
  | .refused => false

/-- The largest signed number of 32 bits. -/
def maxSigned32 : Int := 2147483647

/-- The largest unsigned number of 32 bits. -/
def maxUnsigned32 : Int := 4294967295

/-- The largest signed number of 64 bits. -/
def maxSigned64 : Int := 9223372036854775807

/-- The largest unsigned number of 64 bits. -/
def maxUnsigned64 : Int := 18446744073709551615

/-- The shortest pause between looks at a server, in milliseconds. -/
def minHeartbeat : Int := 500

/-- The shortest staleness that may be put up with, in seconds. -/
def minStaleness : Int := 90

/-- The ways to log in. -/
def mechanisms : List String :=
  ["SCRAM-SHA-1", "SCRAM-SHA-256", "MONGODB-X509", "PLAIN", "MONGODB-OIDC"]

/-- The servers that may be read from. -/
def readPreferences : List String :=
  ["primary", "secondary", "primarypreferred", "secondarypreferred", "nearest"]

/-- A span of time in milliseconds. -/
def milliseconds : Form := .number 0 maxUnsigned64

/-- The forms of all options. -/
def forms : List (String × Form) :=
  [("appname", .any), ("authmechanism", .word mechanisms), ("authmechanismproperties", .pairs),
   ("authsource", .filled), ("compressors", .refused), ("connecttimeoutms", milliseconds),
   ("directconnection", .flag), ("heartbeatfrequencyms", .number minHeartbeat maxUnsigned64),
   ("journal", .flag), ("loadbalanced", .flag), ("localthresholdms", milliseconds),
   ("maxconnecting", .number 1 maxUnsigned32), ("maxidletimems", milliseconds),
   ("maxpoolsize", .number 0 maxUnsigned32),
   ("maxstalenessseconds", .number (-1) maxSigned64), ("minpoolsize", .number 0 maxUnsigned32),
   ("readconcernlevel", .any), ("readpreference", .looseWord readPreferences),
   ("readpreferencetags", .pairs), ("replicaset", .any), ("retryreads", .flag),
   ("retrywrites", .flag), ("servermonitoringmode", .looseWord ["stream", "poll", "auto"]),
   ("serverselectiontimeoutms", milliseconds), ("sockettimeoutms", milliseconds),
   ("srvmaxhosts", .refused), ("srvservicename", .refused), ("ssl", .flag), ("tls", .flag),
   ("tlsallowinvalidcertificates", .flag), ("tlscafile", .any),
   ("tlscertificatekeyfile", .any), ("tlsinsecure", .flag),
   ("uuidrepresentation", .looseWord ["csharplegacy", "javalegacy", "pythonlegacy"]),
   ("w", .numberOrText 0 maxSigned32), ("wtimeoutms", milliseconds),
   ("zlibcompressionlevel", .number (-maxSigned32 - 1) maxSigned32)]

/-- An option is known, and its value has the form of the option. -/
def isKnownOption (option : String × String) : Bool :=
  (forms.find? (·.1 == option.1)).any fun f => f.2.admits option.2

/-! ## Reading -/

/-- The option that may be given several times. -/
def repeatable : String := "readpreferencetags"

/-- A name and a value with an equals sign between them. -/
def pair? (cs : List Char) : Option (String × String) :=
  let name := cs.takeWhile (· ≠ '=')
  match cs.drop name.length with
  | _ :: value => some (String.ofList name, String.ofList value)
  | [] => none

/-- No name occurs twice, as it is spelled. -/
def areDistinct : List String → Bool
  | [] => true
  | name :: rest =>
      (lowered name == repeatable || !rest.contains name) && areDistinct rest

/-- The options that a text spells. -/
def options? (cs : List Char) : Option Options := do
  let spelled ← (Text.pieces '&' cs).mapM pair?
  let options ← spelled.mapM fun (name, value) =>
    (Text.percentText? value).map fun v => (lowered name, v)
  if areDistinct (spelled.map (·.1)) && options.all isKnownOption then return ⟨options⟩
  else none

namespace Options

/-- The value of an option; the last one counts. -/
def get? (o : Options) (name : String) : Option String :=
  (o.pairs.reverse.find? (·.1 == name)).map (·.2)

/-- An option is given. -/
def has (o : Options) (name : String) : Bool := (o.get? name).isSome

/-- An option is switched on. -/
def isOn (o : Options) (name : String) : Bool := o.get? name == some "true"

/-- An option is switched off. -/
def isOff (o : Options) (name : String) : Bool := o.get? name == some "false"

/-- Reading from other servers than the first is asked for. -/
def readsElsewhere (o : Options) : Bool :=
  (o.get? "readpreference").any fun p => lowered p != "primary"

/-- The staleness that is put up with, if a bound is set. -/
def staleness? (o : Options) : Option Int :=
  ((o.get? "maxstalenessseconds").bind signed?).filter (0 ≤ ·)

/-- The options go with each other and with a number of hosts. -/
def agree (o : Options) (hosts : Nat) : Bool :=
  (!o.has repeatable || o.readsElsewhere) &&
    o.staleness?.all (fun n => o.readsElsewhere && minStaleness ≤ n) &&
    !(o.isOn "tls" && o.isOff "ssl") && !(o.isOff "tls" && o.isOn "ssl") &&
    !((o.isOff "tls" || o.isOff "ssl") && (o.has "tlscafile" || o.has "tlscertificatekeyfile")) &&
    !(o.isOn "loadbalanced" && (o.has "replicaset" || 1 < hosts || o.isOn "directconnection")) &&
    !(o.isOn "directconnection" && 1 < hosts) &&
    !((o.get? "w").bind signed? == some 0 && o.isOn "journal")

end Options

end Roster.Document.Address
