import MessageGateway.Memory

/-!
# Kinds of calls

## Main definitions

* `Exchange`: a call with its answer
* `Call.ofMessages`: the calls of the message store
* `Call.isTransmission`, `Call.isDeed`: the calls by which a delivery goes forward
* `Call.isPreparation`: the calls by which a transmission is prepared
* `Call.unanswered`: an answer for calls that nobody answers
-/

namespace MessageGateway

/-- A call with its answer. -/
structure Exchange where
  /-- The call. -/
  call : Call
  /-- The answer. -/
  answer : call.Answer

namespace Call

/-- The call is one of the message store. -/
def ofMessages : Call → Bool
  | .findMessage _ | .createMessage _ | .updateMessage _ | .pendingMessages _ | .messagesOf _ =>
    true
  | _ => false

/-- The call is to transmit a message. -/
def isTransmission : Call → Bool
  | .transmit .. => true
  | _ => false

/-- The call is to store a record or to transmit a message. -/
def isDeed : Call → Bool
  | .createMessage _ | .updateMessage _ => true
  | c => c.isTransmission

/-- The call asks a clock, the network or the source of random words, for a transmission that is
yet to come. -/
def isPreparation : Call → Bool
  | .elapsed | .now | .pause .. | .randomWords _ => true
  | .sessionReady _ | .showPresence _ | .probe .. | .upload .. => true
  | _ => false

/-- An answer to every call, as of somebody who has nothing and can do nothing. -/
def unanswered : (c : Call) → c.Answer
  | .findMessage _ | .createMessage _ | .updateMessage _ | .pendingMessages _ | .messagesOf _
  | .findInstance _ | .updateInstance _ | .finishCycle .. | .createPayload _
  | .pendingPayloads .. | .markPayload .. | .purgePayloads _ => .error (.backend "no answer")
  | .processPayload _ => .error (.processor "no answer")
  | .openSession _ | .showPresence _ | .probe .. | .upload .. | .transmit .. => .error .timeout
  | .sessionReady _ | .anyFired _ => false
  | .enqueue _ => .error .closed
  | .passQueue _ => .nothing
  | .popQueue | .findHandle _ | .mountHandle .. | .removeHandle _ | .removeCycle .. => none
  | .issueToken => ⟨0⟩
  | .fireToken _ => ()
  | .now => ⟨0, 0⟩
  | .elapsed => (0 : Nat)
  | .spawn _ => (0 : Nat)
  | .pause .. => .stopped
  | .newMessageId | .newCycleId | .newPayloadId => ⟨0⟩
  | .randomWords _ => []

variable {c : Call}

theorem isTransmission_of_not_isDeed (h : c.isDeed = false) : c.isTransmission = false := by
  cases c <;> first | rfl | cases h

theorem not_isDeed_of_isPreparation (h : c.isPreparation = true) : c.isDeed = false := by
  cases c <;> first | rfl | cases h

/-- What is asked for a preparation is not kept in the memory. -/
theorem answer?_of_isPreparation (h : c.isPreparation = true) (m : Memory) :
    m.answer? c = none := by
  cases c <;> first | rfl | cases h

end Call

end MessageGateway
