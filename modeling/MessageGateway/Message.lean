import MessageGateway.Identifier
import MessageGateway.Time.Timestamp

/-!
# Messages

A message record says to whom something is to be sent for which instance, a summary of what, and
how far its delivery has come. Delivery moves from queued through sending to sent or failed; it may
skip steps but never goes back, and sent and failed are final.

## Main definitions

* `MessageStatus`, `MessageStatus.isTerminal`, `MessageStatus.allows`: the status machine
* `MessageKind`: text or one of four kinds of media
* `Message`, `Message.transition`: a record, and the moves of its status
* `MessageCounts`: how many records have each status
-/

namespace MessageGateway

/-- How far the delivery of a message has come. -/
inductive MessageStatus where
  /-- Accepted for delivery. -/
  | queued
  /-- Being delivered; written before the transmission. -/
  | sending
  /-- Transmitted. -/
  | sent
  /-- Given up, or refused by the network. -/
  | failed
  deriving DecidableEq, Repr

namespace MessageStatus

/-- The delivery is over. -/
def isTerminal : MessageStatus → Bool
  | .sent | .failed => true
  | .queued | .sending => false

/-- The moves of a delivery. Staying where it is is always allowed. -/
def allows (current next : MessageStatus) : Bool :=
  current == next ||
    match current with
    | .queued => true
    | .sending => next.isTerminal
    | .sent | .failed => false

variable {s t : MessageStatus}

/-- A delivery that is not over may come to any end. -/
theorem allows_of_isTerminal (hs : s.isTerminal = false) (ht : t.isTerminal = true) :
    s.allows t = true := by
  cases s <;> cases t <;> simp_all [allows, isTerminal]

/-- A delivery that is not over may be begun, or begun again. -/
theorem allows_sending (h : s.isTerminal = false) : s.allows .sending = true := by
  cases s <;> first | rfl | cases h

/-- The name of the status. -/
def name : MessageStatus → String
  | .queued => "queued"
  | .sending => "sending"
  | .sent => "sent"
  | .failed => "failed"

/-- The statuses under their names. -/
def table : List (String × MessageStatus) :=
  [.queued, .sending, .sent, .failed].map fun s => (s.name, s)

end MessageStatus

/-- What a message carries. -/
inductive MessageKind where
  /-- Plain text. -/
  | text
  /-- A picture. -/
  | image
  /-- A film. -/
  | video
  /-- Sound, such as a voice note. -/
  | audio
  /-- A file. -/
  | document
  deriving DecidableEq, Repr

namespace MessageKind

/-- The name of the kind. -/
def name : MessageKind → String
  | .text => "text"
  | .image => "image"
  | .video => "video"
  | .audio => "audio"
  | .document => "document"

/-- The kinds under their names. -/
def table : List (String × MessageKind) :=
  [.text, .image, .video, .audio, .document].map fun k => (k.name, k)

/-- The kind of this name. -/
def parse? (s : String) : Option MessageKind :=
  (table.find? fun e => e.1 == s).map (·.2)

end MessageKind

/-- A refused move of a message's status. -/
structure TransitionError where
  /-- The message. -/
  id : MessageId
  /-- Its status. -/
  current : MessageStatus
  /-- The status that was refused. -/
  next : MessageStatus
  deriving DecidableEq, Repr

/-- The wording of the error. -/
def TransitionError.message (e : TransitionError) : String :=
  "message " ++ e.id.display ++ " cannot move from " ++ e.current.name ++ " to " ++ e.next.name

/-- A durable message record. -/
structure Message where
  /-- The name of the record. -/
  id : MessageId
  /-- The instance that sends it. -/
  owner : InstanceId
  /-- The destination as it was given. -/
  recipient : String
  /-- What it carries. -/
  kind : MessageKind
  /-- A summary of the content: the body of a text, else what kind of file. -/
  payload : String
  /-- How far its delivery has come. -/
  status : MessageStatus
  /-- When the record was made. -/
  created : Timestamp
  /-- When its status was last written. -/
  updated : Timestamp
  deriving DecidableEq, Repr

namespace Message

/-- A record made at the time `now`. -/
def make (id : MessageId) (owner : InstanceId) (recipient : String) (kind : MessageKind)
    (payload : String) (status : MessageStatus) (now : Timestamp) : Message :=
  { id, owner, recipient, kind, payload, status, created := now, updated := now }

/-- The record with the status `next`, written at the time `now`, if the move is allowed. -/
def transition (m : Message) (next : MessageStatus) (now : Timestamp) :
    Except TransitionError Message :=
  if m.status.allows next then .ok { m with status := next, updated := now }
  else .error ⟨m.id, m.status, next⟩

/-- Records are listed by the time they were made, then by identifier. -/
def listedBefore (a b : Message) : Bool :=
  a.created.precedes b.created || (a.created == b.created && !b.id.precedes a.id)

end Message

/-- How many records have each status. -/
structure MessageCounts where
  /-- Records that wait for delivery. -/
  queued : Nat
  /-- Records being delivered. -/
  sending : Nat
  /-- Delivered records. -/
  sent : Nat
  /-- Records whose delivery failed. -/
  failed : Nat
  deriving DecidableEq, Repr

namespace MessageCounts

/-- The counts of a list of records. -/
def ofMessages (ms : List Message) : MessageCounts :=
  let count (s : MessageStatus) := (ms.filter fun m => m.status == s).length
  ⟨count .queued, count .sending, count .sent, count .failed⟩

/-- The records whose delivery is not over. -/
def inFlight (c : MessageCounts) : Nat :=
  c.queued + c.sending

/-- All records. -/
def total (c : MessageCounts) : Nat :=
  c.inFlight + c.sent + c.failed

end MessageCounts

end MessageGateway
