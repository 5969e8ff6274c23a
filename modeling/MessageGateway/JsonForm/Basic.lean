import MessageGateway.Identifier
import MessageGateway.Json.Decode
import MessageGateway.Time.Rfc3339

/-!
# JSON forms of identifiers and times

An identifier is an object that holds its 26 characters, without the tag; an instance's name is a
string; a time is its RFC 3339 text.

## Main definitions

* `Id.toJson`, `Id.ofJson?`
* `InstanceId.toJson`, `InstanceId.ofJson?`
* `Timestamp.toJson`, `Timestamp.ofJson?`
-/

namespace MessageGateway

/-- The bound of unsigned integers of 64 bits. -/
def bound64 : Nat := 0x10000000000000000

/-- The bound of unsigned integers of 32 bits. -/
def bound32 : Nat := 0x100000000

/-- The JSON form of an identifier. -/
def Id.toJson {kind : IdKind} (id : Id kind) : Json :=
  .obj [("ulid", .text id.bare)]

/-- The identifier of a JSON form. -/
def Id.ofJson? {kind : IdKind} (v : Json) : Option (Id kind) := do
  let [ulid] ← v.slots? ["ulid"] | none
  ofBare? (← ulid.required? Json.asText?).toList

/-- The JSON form of an instance's name. -/
def InstanceId.toJson (i : InstanceId) : Json :=
  .text i.text

/-- The instance's name of a JSON form. -/
def InstanceId.ofJson? (v : Json) : Option InstanceId :=
  v.asText?.map InstanceId.mk

/-- The JSON form of a time. -/
def Timestamp.toJson (t : Timestamp) : Json :=
  .text (Rfc3339.write t)

/-- The time of a JSON form. -/
def Timestamp.ofJson? (v : Json) : Option Timestamp :=
  v.asText?.bind Rfc3339.read?

end MessageGateway
