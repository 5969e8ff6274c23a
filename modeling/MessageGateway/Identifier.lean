import MessageGateway.Identifier.Base32
import MessageGateway.Text.Blank
import MessageGateway.Text.Parts

/-!
# Identifiers

Messages, history-sync cycles and sync payloads are named by 128-bit values that the gateway
draws itself: the upper 48 bits are a time in milliseconds and the lower 80 are random, so
identifiers sort by time. The kind of an identifier is part of its type, and its text begins with
the tag of its kind. An instance is named by text from outside, which means nothing here.

## Main definitions

* `IdKind`, `IdKind.tag`: the three kinds and the tags of their texts
* `Id kind`: an identifier of one kind
* `Id.display`, `Id.parse?`: its text and back
* `Id.ofParts`: an identifier of a time and random bits
* `InstanceId`: the name of a tenant's connection
-/

namespace MessageGateway

/-- What an identifier names. -/
inductive IdKind where
  /-- A message record. -/
  | message
  /-- One history-sync cycle of an instance. -/
  | cycle
  /-- A stored history-sync notification. -/
  | payload
  deriving DecidableEq, Repr

/-- The tag in front of an identifier's text. -/
def IdKind.tag : IdKind → String
  | .message => "msg-"
  | .cycle => "cycle-"
  | .payload => "hsp-"

/-- An identifier: a 128-bit value, with what it names in its type. -/
structure Id (kind : IdKind) where
  /-- The identifier's value. -/
  value : BitVec 128
  deriving DecidableEq, Repr

/-- The name of a message, and the idempotency key of its delivery. -/
abbrev MessageId := Id .message

/-- The name of one history-sync cycle. -/
abbrev CycleId := Id .cycle

/-- The name of a stored history-sync notification. -/
abbrev PayloadId := Id .payload

namespace Id

variable {kind : IdKind}

/-- The 26 characters of the value, without the tag. -/
def bare (id : Id kind) : String :=
  String.ofList (Identifier.Base32.encode id.value)

/-- The identifier's text: the tag of its kind, then the 26 characters. -/
def display (id : Id kind) : String :=
  kind.tag ++ id.bare

/-- The identifier written without a tag. -/
def ofBare? (cs : List Char) : Option (Id kind) :=
  (Identifier.Base32.decode? cs).map Id.mk

/-- The identifier that a text names: the tag of the kind may stand in front. -/
def parse? (s : String) : Option (Id kind) :=
  ofBare? ((Text.after? kind.tag.toList s.toList).getD s.toList)

/-- An identifier made at a time in milliseconds, of which 48 bits count, with 80 random bits. -/
def ofParts (millis : Int) (random : Nat) : Id kind :=
  ⟨BitVec.ofInt 48 millis ++ BitVec.ofNat 80 random⟩

/-- The time in an identifier: its upper 48 bits. -/
def millis (id : Id kind) : Nat :=
  (id.value >>> 80).toNat

/-- Identifiers are ordered by value. -/
def precedes (a b : Id kind) : Bool :=
  a.value.toNat < b.value.toNat

end Id

/-- The name of one tenant's connection, issued outside the gateway. -/
structure InstanceId where
  /-- The name as it was issued. -/
  text : String
  deriving DecidableEq, Repr

/-- The name is empty or holds only blanks. -/
def InstanceId.isBlank (i : InstanceId) : Bool :=
  Text.isBlankText i.text

end MessageGateway
