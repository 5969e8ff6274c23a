import MessageGateway.Json.Value
import MessageGateway.Message

/-!
# Queue events

The delivery queue carries the intention to send a message, not the record: its identifier, which
doubles as the idempotency key, the name of its kind, and a free-form map that holds destination
and text.

## Main definitions

* `QueueEvent`: the intention to send a message
* `QueueEvent.make`, `QueueEvent.ofMessage`: the events that the gateway makes
* `QueueEvent.recipient`, `QueueEvent.text`: what the map says
-/

namespace MessageGateway

/-- The intention to send a message. -/
structure QueueEvent where
  /-- The message to be sent. -/
  id : MessageId
  /-- The instance that sends it. -/
  owner : InstanceId
  /-- The name of its kind. -/
  kind : String
  /-- What is to be sent, its keys in ascending order. -/
  payload : List (String × Value)
  /-- When the message was made. -/
  created : Timestamp
  deriving Repr

namespace QueueEvent

/-- The key of the destination. -/
def recipientKey : String := "to"

/-- The key of the text. -/
def textKey : String := "text"

/-- The event of a text for a destination. -/
def make (id : MessageId) (owner : InstanceId) (kind recipient text : String)
    (created : Timestamp) : QueueEvent :=
  { id, owner, kind, created
    payload := Value.insert textKey (.text text) (Value.insert recipientKey (.text recipient) []) }

/-- The event of a stored message, whose text is its summary. -/
def ofMessage (m : Message) : QueueEvent :=
  make m.id m.owner m.kind.name m.recipient m.payload m.created

/-- The string under a key, or the empty text when there is none. -/
def textUnder (e : QueueEvent) (key : String) : String :=
  ((Value.find? key e.payload).bind Value.asText?).getD ""

/-- The destination. -/
def recipient (e : QueueEvent) : String :=
  e.textUnder recipientKey

/-- The text to be sent. -/
def text (e : QueueEvent) : String :=
  e.textUnder textKey

end QueueEvent

end MessageGateway
