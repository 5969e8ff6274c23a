import MessageGateway.Content.Outbound
import MessageGateway.HistorySync.Payload
import MessageGateway.Instance
import MessageGateway.Json.Decode
import MessageGateway.QueueEvent

/-!
# Flat forms of records

Records also have a JSON form for people: identifiers with their tags, times in milliseconds, and
what follows from the fields beside them. It is only written, never read. The members of its
objects stand in alphabetical order.

## Main definitions

* `Message.flat`, `Instance.flat`, `QueueEvent.flat`, `SyncPayload.flat`, `Outbound.flat`
* `Json.plainBytes`: bytes as a string when they are one
-/

namespace MessageGateway

/-- Bytes as the string that they spell in UTF-8, or as a list when they spell none. -/
def Json.plainBytes (bs : List UInt8) : Json :=
  match String.fromUTF8? ⟨bs.toArray⟩ with
  | some s => .text s
  | none => .bytes bs

/-- The flat form of an identifier: its text. -/
def Id.flat {kind : IdKind} (id : Id kind) : Json :=
  .text id.display

/-- The flat form of a time: milliseconds since the start of 1970. -/
def Timestamp.flat (t : Timestamp) : Json :=
  .int t.toMillis

/-- The flat form of a message record. -/
def Message.flat (m : Message) : Json :=
  .obj [("created", m.created.flat), ("id", m.id.flat), ("instance", .text m.owner.text),
    ("kind", .text m.kind.name), ("payload", .text m.payload), ("status", .text m.status.name),
    ("to", .text m.recipient), ("updated", m.updated.flat)]

/-- The flat form of an instance record. -/
def Instance.flat (r : Instance) : Json :=
  .obj [("active", .bool r.isActive), ("cycle", .opt Id.flat r.cycle), ("id", .text r.id.text),
    ("status", .text r.status.name), ("sync", .text r.sync.name),
    ("sync_at", .opt Timestamp.flat r.syncUpdated)]

/-- The flat form of a queue event. -/
def QueueEvent.flat (e : QueueEvent) : Json :=
  .obj [("created", e.created.flat), ("id", e.id.flat), ("instance", .text e.owner.text),
    ("payload", (Value.map e.payload).toJson), ("text", .text e.text), ("to", .text e.recipient),
    ("type", .text e.kind)]

/-- The flat form of an announcement. -/
def SyncPayload.flat (p : SyncPayload) : Json :=
  .obj [("created", p.created.flat), ("cycle", .opt Id.flat p.cycle), ("id", p.id.flat),
    ("instance", .text p.owner.text), ("payload", .plainBytes p.payload),
    ("pending", .bool p.isPending), ("processed", .opt Timestamp.flat p.processed),
    ("status", .text p.status.name), ("type", .text p.type)]

namespace Outbound

/-- The members that say what a message refers to, in any order. -/
def reference (m : MediaEnvelope) : List (String × Json) :=
  [("caption", .opt .text m.caption), ("direct_path", .text m.upload.directPath),
    ("file_enc_sha256", .bytes m.upload.encryptedHash), ("file_length", .nat m.upload.fileLength),
    ("file_sha256", .bytes m.upload.fileHash), ("media_key", .bytes m.upload.mediaKey),
    ("mime_type", .text m.mimeType), ("url", .text m.upload.url)]

/-- The members that say what a message carries, in any order. -/
def carried : Outbound → List (String × Json)
  | .text body => [("body", .text body)]
  | .image media | .video media => reference media
  | .audio sound =>
    reference sound.media ++
      [("key_timestamp", .int sound.keyTime), ("ptt", .bool sound.voiceNote),
        ("seconds", .nat sound.seconds), ("sidecar", .opt .bytes sound.sidecar),
        ("waveform_len", .opt (fun w => .nat w.length) sound.waveform)]
  | .document file => reference file.media ++ [("file_name", .text file.fileName)]

/-- The flat form of a message ready for transmission; of a waveform it has only the length. -/
def flat (m : Outbound) : Json :=
  let members : List (String × Json) :=
    m.carried ++ [("kind", .text m.kind.name), ("summary", .text m.summary)]
  .obj (members.mergeSort fun a b => a.1 ≤ b.1)

end Outbound

end MessageGateway
