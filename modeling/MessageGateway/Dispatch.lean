import MessageGateway.Dispatch.Readiness
import MessageGateway.Dispatch.Resolve

/-!
# Dispatch

One send brings one message to the network. It checks the instance and its session, waits for the
session, resolves the destination, uploads a file, stores the record as being sent, transmits, and
stores how that went. The record is written before the transmission, so a crash leaves a trace of
everything that may have been transmitted.

A send with the name of a stored message continues that message, and does nothing when its
delivery is over.

## Main definitions

* `SendInput`: what is to be sent, to whom, and under which name
* `send`: one send
* `failPending`: gives a message up
* `listMessages`: the messages of an instance
-/

namespace MessageGateway

/-- What is to be sent. -/
structure SendInput where
  /-- The instance that sends it. -/
  owner : InstanceId
  /-- The destination as it was given. -/
  recipient : String
  /-- The content. -/
  content : Content
  /-- The name of the message, when it has one already. -/
  id : Option MessageId

namespace SendInput

/-- A send for a request in the flat shape. -/
def ofRequest (owner : InstanceId) (recipient : String) (r : SendRequest) (id : Option MessageId) :
    Except DispatchError SendInput :=
  (Content.ofRequest r).map fun content => { owner, recipient, content, id }

/-- A send for a queue event, under the event's name. -/
def ofEvent (e : QueueEvent) : Except DispatchError SendInput :=
  (Content.ofEvent e).map fun content =>
    { owner := e.owner, recipient := e.recipient, content, id := some e.id }

end SendInput

open Program

namespace Dispatch

/-- The record that the send continues. -/
def existing (id : Option MessageId) : ExceptT SendFailure Program (Option Message) :=
  match id with
  | none => pure none
  | some id => orFail .ofStore (findMessage id)

/-- Lowers the status of an instance whose session is gone. The record is read again, so that no
other field goes back; failures do not matter. -/
def downgrade (i : InstanceId) : Program Unit := do
  match ← findInstance i with
  | .ok r => let _ ← bestEffort (updateInstance { r with status := .error })
  | .error _ => pure ()

/-- The instance has to be there and active. -/
def checkInstance (i : InstanceId) : ExceptT SendFailure Program Unit := do
  match ← findInstance i with
  | .ok r => unless r.isActive do throw (.of (.notConnected i))
  | .error (.notFound _) => throw (.of (.notFound i))
  | .error e => throw (.ofStore e)

/-- The instance has to have a session that is logged in; else its status is lowered. -/
def checkSession (i : InstanceId) : ExceptT SendFailure Program Unit := do
  let connected := match ← openSession i with
    | .ok session => session.loggedIn
    | .error _ => false
  unless connected do
    downgrade i
    throw (.of (.notConnected i))

/-- Uploads the file of the content, if it has one. -/
def uploadMedia (i : InstanceId) (content : Content) :
    ExceptT SendFailure Program (Option UploadResult) :=
  match content.media? with
  | none => pure none
  | some (media, category) =>
    some <$> orFail (fun e => .of (.upload e)) (upload i media.data category)

/-- Random words for the waveform of a voice note; nothing else needs any. -/
def waveformWords : Content → Program (List UInt64)
  | .audio _ true _ => randomWords Waveform.length
  | _ => pure []

/-- The address and the message, ready for transmission. -/
def prepare (c : GatewayConfig) (input : SendInput) :
    ExceptT SendFailure Program (Address × Outbound) := do
  orFail .of (awaitReady c.dispatch input.owner)
  let address ← orFail (fun e => .of (.invalidAddress e.message))
    (resolve c.resolver input.owner input.recipient)
  orFail .of (pure input.content.validate)
  let uploaded ← uploadMedia input.owner input.content
  let time ← now
  let words ← waveformWords input.content
  let outbound ← orFail .of (pure (input.content.build uploaded time words))
  return (address, outbound)

/-- Stores the record of a message that is about to be transmitted: the one that the send
continues, with the summary of what is transmitted now, or a new one. -/
def store (input : SendInput) (known : Option Message) (outbound : Outbound) :
    ExceptT SendFailure Program Message := do
  let time ← now
  match known with
  | some m =>
    let m ← orFail (fun e => .ofStore (.conflict e.message))
      (pure ({ m with payload := outbound.summary }.transition .sending time))
    orFail .ofStore (updateMessage m)
    return m
  | none =>
    let id ← match input.id with
      | some id => pure id
      | none => newMessageId
    orFail .ofStore (createMessage
      (.make id input.owner input.recipient input.content.kind outbound.summary .sending time))

/-- The record with the outcome of the transmission. It is stored if the store can take it. -/
def settle (m : Message) (status : MessageStatus) : Program Message := do
  match m.transition status (← now) with
  | .error _ => return m
  | .ok m =>
    let _ ← bestEffort (updateMessage m)
    return m

/-- Transmits the message and settles its record. -/
def deliver (m : Message) (i : InstanceId) (address : Address) (outbound : Outbound) :
    ExceptT SendFailure Program Message := do
  match ← transmit i address outbound with
  | .ok () => settle m .sent
  | .error e => throw ⟨.transmission e, some (← settle m .failed)⟩

/-- Everything a send does once it is known that the delivery is not over. -/
def proceed (c : GatewayConfig) (input : SendInput) (known : Option Message) :
    ExceptT SendFailure Program Message := do
  checkInstance input.owner
  checkSession input.owner
  let (address, outbound) ← prepare c input
  let m ← store input known outbound
  deliver m input.owner address outbound

end Dispatch

/-- One send. A failed transmission comes with its record; every other failure leaves no trace of
a new delivery. -/
def send (c : GatewayConfig) (input : SendInput) : Program (Except SendFailure Message) :=
  ExceptT.run do
    if input.owner.isBlank || input.recipient.isEmpty then
      throw (.of (.invalidPayload "instance_id and to are required"))
    let known ← Dispatch.existing input.id
    match known.filter fun m => m.status.isTerminal with
    | some m => return m
    | none => Dispatch.proceed c input known

/-- Gives a message up, unless its delivery is over; the answer is its record, if there is one. -/
def failPending (id : MessageId) : Program (Except StoreError (Option Message)) :=
  ExceptT.run do
    match ← orFail (fun e => e) (findMessage id) with
    | none => return none
    | some m =>
      if m.status.isTerminal then
        return some m
      let m ← orFail (fun e => .conflict e.message) (do return m.transition .failed (← now))
      orFail (fun e => e) (updateMessage m)
      return some m

/-- The messages of an instance, oldest first. -/
def listMessages (i : InstanceId) : Program (Except StoreError (List Message)) :=
  messagesOf i

end MessageGateway
