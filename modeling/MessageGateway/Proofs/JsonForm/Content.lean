import MessageGateway.JsonForm.Content
import MessageGateway.Proofs.JsonForm.Fields

/-!
# Content and what sessions say are read back

What is uploaded, what is sent and what is asked to be sent. The fields that are numbers have the
ranges of their types.

## Main definitions

* `UploadResult.Fits`, `AudioEnvelope.Fits`, `Outbound.Fits`, `SendRequest.Fits`, `Content.Fits`:
  the numbers are those of their types

## Main results

* `Address.ofJson?_toJson`, `Outbound.ofJson?_toJson`, `Content.ofJson?_toJson`, ...: what is
  written is read back
-/

namespace MessageGateway

/-! ## Addresses and uploads -/

namespace Address

@[simp] theorem isWritable_toJson (a : Address) : a.toJson.IsWritable := by
  simp [toJson]

@[simp] theorem ofJson?_toJson (a : Address) : ofJson? a.toJson = some a := by
  have fields : a.toJson.slots? ["user", "server"] =
      some [.given (.text a.user), .given (.text a.server)] :=
    Json.slots?_obj rfl (by decide)
  simp [ofJson?, fields]

end Address

namespace ExistenceResult

@[simp] theorem isWritable_toJson (r : ExistenceResult) : r.toJson.IsWritable := by
  simp [toJson]

theorem ofJson?_toJson (r : ExistenceResult) : ofJson? r.toJson = some r := by
  have fields : r.toJson.slots? ["query", "address", "exists"] =
      some [.given (.text r.query), .given r.address.toJson, .given (.bool r.found)] :=
    Json.slots?_obj rfl (by decide)
  simp [ofJson?, fields]

end ExistenceResult

/-- The length is one of 64 bits. -/
def UploadResult.Fits (u : UploadResult) : Prop :=
  u.fileLength < bound64

namespace UploadResult

variable {u : UploadResult}

theorem isWritable_of_mem_members {m : String × Json} (h : m ∈ u.members) : m.2.IsWritable := by
  revert m
  simp [members]

@[simp] theorem isWritable_toJson (u : UploadResult) : u.toJson.IsWritable :=
  (Json.isWritable_obj _).2 fun _ => isWritable_of_mem_members

/-- The fields of an upload say the upload. -/
theorem ofSlots?_members (h : u.Fits) :
    ofSlots? (.given (.text u.url)) (.given (.text u.directPath)) (.given (.bytes u.mediaKey))
      (.given (.bytes u.encryptedHash)) (.given (.bytes u.fileHash)) (.given (.nat u.fileLength)) =
      some u := by
  simp [ofSlots?, Json.asNat?_nat h]

theorem ofJson?_of_slots {v : Json} {url path key encrypted hash length : Json.Slot}
    (h : v.slots? names = some [url, path, key, encrypted, hash, length]) :
    ofJson? v = ofSlots? url path key encrypted hash length := by
  rw [ofJson?, h]
  rfl

theorem ofJson?_toJson (h : u.Fits) : ofJson? u.toJson = some u := by
  have fields : u.toJson.slots? names =
      some [.given (.text u.url), .given (.text u.directPath), .given (.bytes u.mediaKey),
        .given (.bytes u.encryptedHash), .given (.bytes u.fileHash),
        .given (.nat u.fileLength)] :=
    Json.slots?_obj rfl (by decide)
  rw [ofJson?_of_slots fields, ofSlots?_members h]

end UploadResult

/-! ## Messages ready for transmission -/

namespace MediaEnvelope

variable {m : MediaEnvelope}

@[simp] theorem isWritable_toJson (m : MediaEnvelope) : m.toJson.IsWritable := by
  simp [toJson, UploadResult.members]

theorem ofJson?_toJson (h : m.upload.Fits) : ofJson? m.toJson = some m := by
  have fields : m.toJson.slots? (UploadResult.names ++ ["mime_type", "caption"]) =
      some [.given (.text m.upload.url), .given (.text m.upload.directPath),
        .given (.bytes m.upload.mediaKey), .given (.bytes m.upload.encryptedHash),
        .given (.bytes m.upload.fileHash), .given (.nat m.upload.fileLength),
        .given (.text m.mimeType), .given (.opt .text m.caption)] :=
    Json.slots?_obj rfl (by decide)
  simp [ofJson?, fields, UploadResult.ofSlots?_members h]

end MediaEnvelope

/-- The length of the file is one of 64 bits, how long it plays one of 32, and the key's time a
signed one of 64. -/
structure AudioEnvelope.Fits (s : AudioEnvelope) : Prop where
  /-- The file. -/
  upload : s.media.upload.Fits
  /-- How long it plays. -/
  seconds : s.seconds < bound32
  /-- When the key was made. -/
  keyTime : -0x8000000000000000 ≤ s.keyTime ∧ s.keyTime < 0x8000000000000000

namespace AudioEnvelope

variable {s : AudioEnvelope}

@[simp] theorem isWritable_toJson (s : AudioEnvelope) : s.toJson.IsWritable := by
  simp [toJson]

theorem ofJson?_toJson (h : s.Fits) : ofJson? s.toJson = some s := by
  have fields : s.toJson.slots?
      ["media", "ptt", "seconds", "waveform", "streaming_sidecar", "media_key_timestamp"] =
      some [.given s.media.toJson, .given (.bool s.voiceNote), .given (.nat s.seconds),
        .given (.opt .bytes s.waveform), .given (.opt .bytes s.sidecar),
        .given (.int s.keyTime)] :=
    Json.slots?_obj rfl (by decide)
  simp [ofJson?, fields, MediaEnvelope.ofJson?_toJson h.upload, Json.asNat?_nat h.seconds,
    Json.asInt?_int h.keyTime]

end AudioEnvelope

namespace DocumentEnvelope

variable {d : DocumentEnvelope}

@[simp] theorem isWritable_toJson (d : DocumentEnvelope) : d.toJson.IsWritable := by
  simp [toJson]

theorem ofJson?_toJson (h : d.media.upload.Fits) : ofJson? d.toJson = some d := by
  have fields : d.toJson.slots? ["media", "file_name"] =
      some [.given d.media.toJson, .given (.text d.fileName)] :=
    Json.slots?_obj rfl (by decide)
  simp [ofJson?, fields, MediaEnvelope.ofJson?_toJson h]

end DocumentEnvelope

/-- The numbers of the message are those of its type. -/
def Outbound.Fits : Outbound → Prop
  | .text _ => True
  | .image media | .video media => media.upload.Fits
  | .audio sound => sound.Fits
  | .document file => file.media.upload.Fits

namespace Outbound

@[simp] theorem isWritable_toJson (m : Outbound) : m.toJson.IsWritable := by
  cases m <;> simp [toJson]

theorem ofJson?_toJson {m : Outbound} (h : m.Fits) : ofJson? m.toJson = some m := by
  cases m with
  | text body => simp [ofJson?, toJson]
  | image media => simp [ofJson?, toJson, MediaEnvelope.ofJson?_toJson h]
  | video media => simp [ofJson?, toJson, MediaEnvelope.ofJson?_toJson h]
  | audio sound => simp [ofJson?, toJson, AudioEnvelope.ofJson?_toJson h]
  | document file => simp [ofJson?, toJson, DocumentEnvelope.ofJson?_toJson h]

end Outbound

/-! ## Requests -/

/-- How long the sound plays is a number of 32 bits. -/
def SendRequest.Fits (r : SendRequest) : Prop :=
  r.seconds < bound32

namespace SendRequest

variable {r : SendRequest}

@[simp] theorem isWritable_toJson (r : SendRequest) : r.toJson.IsWritable := by
  simp [toJson]

theorem ofJson?_toJson (h : r.Fits) : ofJson? r.toJson = some r := by
  have fields : r.toJson.slots?
      ["type", "text", "media_data", "mime_type", "caption", "ptt", "seconds", "file_name"] =
      some [.given (.text r.kind), .given (.text r.text), .given (.bytes r.data),
        .given (.text r.mimeType), .given (.opt .text r.caption), .given (.bool r.voiceNote),
        .given (.nat r.seconds), .given (.opt .text r.fileName)] :=
    Json.slots?_obj rfl (by decide)
  -- with every step a rewriting step, as evaluating would compare a number with its bound
  simp -implicitDefEqProofs [ofJson?, fields, Json.asNat?_nat h]

end SendRequest

/-! ## Content -/

namespace MediaInput

@[simp] theorem isWritable_toJson (m : MediaInput) : m.toJson.IsWritable := by
  simp [toJson]

@[simp] theorem ofJson?_toJson (m : MediaInput) : ofJson? m.toJson = some m := by
  have fields : m.toJson.slots? ["data", "mime_type"] =
      some [.given (.bytes m.data), .given (.text m.mimeType)] :=
    Json.slots?_obj rfl (by decide)
  simp [ofJson?, fields]

end MediaInput

/-- How long the sound plays is a number of 32 bits. -/
def Content.Fits : Content → Prop
  | .audio _ _ seconds => seconds < bound32
  | _ => True

namespace Content

@[simp] theorem isWritable_toJson (c : Content) : c.toJson.IsWritable := by
  cases c <;> simp [toJson]

theorem captioned?_obj (media : MediaInput) (caption : Option String) :
    captioned? (.obj [("media", media.toJson), ("caption", .opt .text caption)]) =
      some (media, caption) := by
  have fields : (Json.obj [("media", media.toJson), ("caption", .opt .text caption)]).slots?
      ["media", "caption"] = some [.given media.toJson, .given (.opt .text caption)] :=
    Json.slots?_obj rfl (by decide)
  simp [captioned?, fields]

theorem ofJson?_toJson {c : Content} (h : c.Fits) : ofJson? c.toJson = some c := by
  cases c with
  | text body =>
    have fields : (Json.obj [("body", .text body)]).slots? ["body"] = some [.given (.text body)] :=
      Json.slots?_obj rfl (by decide)
    simp [ofJson?, toJson, fields]
  | image media caption => simp [ofJson?, toJson, captioned?_obj]
  | video media caption => simp [ofJson?, toJson, captioned?_obj]
  | audio media voiceNote seconds =>
    have fields : (Json.obj [("media", media.toJson), ("ptt", .bool voiceNote),
        ("seconds", .nat seconds)]).slots? ["media", "ptt", "seconds"] =
        some [.given media.toJson, .given (.bool voiceNote), .given (.nat seconds)] :=
      Json.slots?_obj rfl (by decide)
    simp [ofJson?, toJson, fields, Json.asNat?_nat h]
  | document media fileName caption =>
    have fields : (Json.obj [("media", media.toJson), ("file_name", .opt .text fileName),
        ("caption", .opt .text caption)]).slots? ["media", "file_name", "caption"] =
        some [.given media.toJson, .given (.opt .text fileName), .given (.opt .text caption)] :=
      Json.slots?_obj rfl (by decide)
    simp [ofJson?, toJson, fields]

end Content

end MessageGateway
