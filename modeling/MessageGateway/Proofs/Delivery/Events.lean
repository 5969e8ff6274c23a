import MessageGateway.Outbox

/-!
# What events say

The event of a record says all of it that a worker needs: its name, instance and destination, and a
text. A text is its own summary, so nothing is lost of it. Of a file the event has no bytes, so a
worker finds the content incomplete.

## Main definitions

* `SendInput.ofMessage`: the send by which the message of a record is transmitted

## Main results

* `SendInput.ofEvent_ofMessage`: that is what a worker makes of the event of the record
* `Content.isPermanent_of_validate`: content that is incomplete stays so
-/

namespace MessageGateway

namespace QueueEvent

@[simp] theorem recipient_ofMessage (m : Message) : (ofMessage m).recipient = m.recipient := by
  rw [recipient, textUnder, ofMessage, make, Value.find?_insert_of_ne (by decide),
    Value.find?_insert_self]
  rfl

@[simp] theorem text_ofMessage (m : Message) : (ofMessage m).text = m.payload := by
  rw [text, textUnder, ofMessage, make, Value.find?_insert_self]
  rfl

end QueueEvent

/-- The name of a kind has no blanks around it, and names no other kind. -/
theorem MessageKind.parse?_trim_name (k : MessageKind) :
    MessageKind.parse? (Text.trim k.name) = some k := by
  cases k <;> decide

namespace Content

/-- What a worker makes of the kind and the payload of a record. -/
def ofRecord (kind : MessageKind) (payload : String) : Content :=
  match kind with
  | .text => .text payload
  | .image => .image ⟨[], ""⟩ none
  | .video => .video ⟨[], ""⟩ none
  | .audio => .audio ⟨[], ""⟩ false 0
  | .document => .document ⟨[], ""⟩ none none

theorem ofEvent_ofMessage (m : Message) :
    ofEvent (.ofMessage m) = .ok (ofRecord m.kind m.payload) := by
  have kind : MessageKind.parse? (Text.trim (QueueEvent.ofMessage m).kind) = some m.kind :=
    MessageKind.parse?_trim_name m.kind
  unfold ofEvent ofRequest
  rw [kind, QueueEvent.text_ofMessage]
  cases m.kind <;> rfl

/-- A record can be delivered if it is of a text that is not empty. -/
theorem validate_ofRecord {kind : MessageKind} {payload : String} :
    (ofRecord kind payload).validate = .ok () ↔ kind = .text ∧ payload ≠ "" := by
  cases kind <;> simp [ofRecord, validate, media?]

/-- Content that is incomplete stays so. -/
theorem isPermanent_of_validate {content : Content} {e : DispatchError}
    (h : content.validate = .error e) : e.kind = .permanent := by
  unfold validate at h
  split at h
  · split at h <;> cases h
    rfl
  · split at h <;> cases h
    rfl

end Content

/-- The send by which the message of a record is transmitted. -/
def SendInput.ofMessage (m : Message) : SendInput :=
  ⟨m.owner, m.recipient, .ofRecord m.kind m.payload, some m.id⟩

/-- **What a worker makes of the event of a record.** -/
theorem SendInput.ofEvent_ofMessage (m : Message) :
    SendInput.ofEvent (.ofMessage m) = .ok (.ofMessage m) := by
  unfold SendInput.ofEvent
  rw [Content.ofEvent_ofMessage, QueueEvent.recipient_ofMessage]
  rfl

end MessageGateway
