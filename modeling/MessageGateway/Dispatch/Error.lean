import MessageGateway.Message
import MessageGateway.Session
import MessageGateway.Store.Error

/-!
# Errors of dispatch

Why one send did not succeed, and what that means for trying again: bad input stays bad, most
trouble passes, and failing stores are a matter for whoever runs them.

## Main definitions

* `DispatchError`, `DispatchError.message`: the causes and their wording
* `ErrorKind`, `DispatchError.kind`, `DispatchError.isRetryable`: what a cause means for a retry
* `SendFailure`: a cause, with the record that tells of it if there is one
-/

namespace MessageGateway

/-- What an error means for trying again. -/
inductive ErrorKind where
  /-- Trying again later may help. -/
  | transient
  /-- The input is bad, and trying again is useless. -/
  | permanent
  /-- A store failed. -/
  | infrastructure
  deriving DecidableEq, Repr

/-- Why a send did not succeed. -/
inductive DispatchError where
  /-- What was to be sent is incomplete. -/
  | invalidPayload (reason : String)
  /-- There is no such instance. -/
  | notFound (i : InstanceId)
  /-- The instance is not active or has no session. -/
  | notConnected (i : InstanceId)
  /-- The destination names nobody. -/
  | invalidAddress (reason : String)
  /-- The kind of message is unknown. -/
  | unsupportedMediaType (type : String)
  /-- The session did not become ready in time. -/
  | sessionUnavailable (i : InstanceId)
  /-- The file could not be uploaded. -/
  | upload (cause : TransportError)
  /-- The message could not be transmitted. -/
  | transmission (cause : TransportError)
  /-- A store failed. -/
  | store (cause : StoreError)
  deriving DecidableEq, Repr

namespace DispatchError

/-- The wording of the error. -/
def message : DispatchError → String
  | .invalidPayload reason => "invalid payload: " ++ reason
  | .notFound i => "instance not found: " ++ i.text
  | .notConnected i => "instance not connected: " ++ i.text
  | .invalidAddress reason => "invalid address: " ++ reason
  | .unsupportedMediaType type => "unsupported media type: " ++ type
  | .sessionUnavailable i =>
    "session unavailable for encryption on instance " ++ i.text ++ ", try again shortly"
  | .upload cause => "media upload failed: " ++ cause.message
  | .transmission cause => "transmission failed: " ++ cause.message
  | .store cause => cause.message

/-- What the error means for trying again. -/
def kind : DispatchError → ErrorKind
  | .invalidPayload _ | .notFound _ | .invalidAddress _ | .unsupportedMediaType _ => .permanent
  | .notConnected _ | .sessionUnavailable _ | .upload _ | .transmission _ => .transient
  | .store _ => .infrastructure

/-- Trying again may help. -/
def isRetryable (e : DispatchError) : Bool :=
  e.kind != .permanent

end DispatchError

/-- A failed send: the cause, and the record of the message if one was stored. -/
structure SendFailure where
  /-- Why the send failed. -/
  error : DispatchError
  /-- The record of the failed transmission. -/
  record : Option Message
  deriving DecidableEq, Repr

namespace SendFailure

/-- A failure that left no record. -/
def of (e : DispatchError) : SendFailure :=
  ⟨e, none⟩

/-- The failure of a store. -/
def ofStore (e : StoreError) : SendFailure :=
  .of (.store e)

end SendFailure

end MessageGateway
