import MessageGateway.Content
import MessageGateway.JsonForm.Basic
import MessageGateway.Session

/-!
# JSON forms of content and of what sessions say

An alternative with fields is an object whose one key is the name of the alternative.

## Main definitions

* `Address.toJson`, `ExistenceResult.toJson`, `UploadResult.toJson`, and back
* `Outbound.toJson`, `Outbound.ofJson?`
* `SendRequest.toJson`, `SendRequest.ofJson?`
* `Content.toJson`, `Content.ofJson?`
-/

namespace MessageGateway

/-- The JSON form of an address. -/
def Address.toJson (a : Address) : Json :=
  .obj [("user", .text a.user), ("server", .text a.server)]

/-- The address of a JSON form. -/
def Address.ofJson? (v : Json) : Option Address := do
  let [user, server] ← v.slots? ["user", "server"] | none
  return { user := ← user.required? Json.asText?, server := ← server.required? Json.asText? }

/-- The JSON form of the answer to whether a number exists. -/
def ExistenceResult.toJson (r : ExistenceResult) : Json :=
  .obj [("query", .text r.query), ("address", r.address.toJson), ("exists", .bool r.found)]

/-- The answer of a JSON form. -/
def ExistenceResult.ofJson? (v : Json) : Option ExistenceResult := do
  let [query, address, found] ← v.slots? ["query", "address", "exists"] | none
  return {
    query := ← query.required? Json.asText?
    address := ← address.required? Address.ofJson?
    found := ← found.required? Json.asBool? }

/-- The members of the JSON form of an upload. -/
def UploadResult.members (u : UploadResult) : List (String × Json) :=
  [("url", .text u.url), ("direct_path", .text u.directPath), ("media_key", .bytes u.mediaKey),
    ("file_enc_sha256", .bytes u.encryptedHash), ("file_sha256", .bytes u.fileHash),
    ("file_length", .nat u.fileLength)]

/-- The names of those members. -/
def UploadResult.names : List String :=
  ["url", "direct_path", "media_key", "file_enc_sha256", "file_sha256", "file_length"]

/-- The JSON form of an upload. -/
def UploadResult.toJson (u : UploadResult) : Json :=
  .obj u.members

/-- The upload that the fields of a JSON form say. -/
def UploadResult.ofSlots? (url path key encrypted hash length : Json.Slot) :
    Option UploadResult := do
  return {
    url := ← url.required? Json.asText?
    directPath := ← path.required? Json.asText?
    mediaKey := ← key.required? Json.asBytes?
    encryptedHash := ← encrypted.required? Json.asBytes?
    fileHash := ← hash.required? Json.asBytes?
    fileLength := ← length.required? (Json.asNat? bound64) }

/-- The upload of a JSON form. -/
def UploadResult.ofJson? (v : Json) : Option UploadResult := do
  let [url, path, key, encrypted, hash, length] ← v.slots? names | none
  ofSlots? url path key encrypted hash length

/-- The JSON form of a reference to a file. -/
def MediaEnvelope.toJson (m : MediaEnvelope) : Json :=
  .obj (m.upload.members ++
    [("mime_type", .text m.mimeType), ("caption", .opt .text m.caption)])

/-- The reference to a file of a JSON form. -/
def MediaEnvelope.ofJson? (v : Json) : Option MediaEnvelope := do
  let [url, path, key, encrypted, hash, length, mime, caption] ←
    v.slots? (UploadResult.names ++ ["mime_type", "caption"]) | none
  return {
    upload := ← UploadResult.ofSlots? url path key encrypted hash length
    mimeType := ← mime.required? Json.asText?
    caption := ← caption.optional? Json.asText? }

/-- The JSON form of a reference to sound. -/
def AudioEnvelope.toJson (s : AudioEnvelope) : Json :=
  .obj [("media", s.media.toJson), ("ptt", .bool s.voiceNote), ("seconds", .nat s.seconds),
    ("waveform", .opt .bytes s.waveform), ("streaming_sidecar", .opt .bytes s.sidecar),
    ("media_key_timestamp", .int s.keyTime)]

/-- The reference to sound of a JSON form. -/
def AudioEnvelope.ofJson? (v : Json) : Option AudioEnvelope := do
  let [media, ptt, seconds, waveform, sidecar, time] ← v.slots?
    ["media", "ptt", "seconds", "waveform", "streaming_sidecar", "media_key_timestamp"] | none
  return {
    media := ← media.required? MediaEnvelope.ofJson?
    voiceNote := ← ptt.required? Json.asBool?
    seconds := ← seconds.required? (Json.asNat? bound32)
    waveform := ← waveform.optional? Json.asBytes?
    sidecar := ← sidecar.optional? Json.asBytes?
    keyTime := ← time.required? (Json.asInt? (-0x8000000000000000) 0x8000000000000000) }

/-- The JSON form of a reference to a named file. -/
def DocumentEnvelope.toJson (d : DocumentEnvelope) : Json :=
  .obj [("media", d.media.toJson), ("file_name", .text d.fileName)]

/-- The reference to a named file of a JSON form. -/
def DocumentEnvelope.ofJson? (v : Json) : Option DocumentEnvelope := do
  let [media, name] ← v.slots? ["media", "file_name"] | none
  return {
    media := ← media.required? MediaEnvelope.ofJson?
    fileName := ← name.required? Json.asText? }

/-- The JSON form of a message ready for transmission. -/
def Outbound.toJson : Outbound → Json
  | .text body => .obj [("Text", .text body)]
  | .image media => .obj [("Image", media.toJson)]
  | .video media => .obj [("Video", media.toJson)]
  | .audio sound => .obj [("Audio", sound.toJson)]
  | .document file => .obj [("Document", file.toJson)]

/-- The message of a JSON form. -/
def Outbound.ofJson? (v : Json) : Option Outbound :=
  match v.asVariant? with
  | some ("Text", v) => v.asText?.map .text
  | some ("Image", v) => (MediaEnvelope.ofJson? v).map .image
  | some ("Video", v) => (MediaEnvelope.ofJson? v).map .video
  | some ("Audio", v) => (AudioEnvelope.ofJson? v).map .audio
  | some ("Document", v) => (DocumentEnvelope.ofJson? v).map .document
  | _ => none

/-- The JSON form of a request. -/
def SendRequest.toJson (r : SendRequest) : Json :=
  .obj [("type", .text r.kind), ("text", .text r.text), ("media_data", .bytes r.data),
    ("mime_type", .text r.mimeType), ("caption", .opt .text r.caption), ("ptt", .bool r.voiceNote),
    ("seconds", .nat r.seconds), ("file_name", .opt .text r.fileName)]

/-- The request of a JSON form; all of it may be missing. -/
def SendRequest.ofJson? (v : Json) : Option SendRequest := do
  let [kind, text, data, mime, caption, ptt, seconds, name] ← v.slots?
    ["type", "text", "media_data", "mime_type", "caption", "ptt", "seconds", "file_name"] | none
  return {
    kind := ← kind.orElse? "" Json.asText?
    text := ← text.orElse? "" Json.asText?
    data := ← data.orElse? [] Json.asBytes?
    mimeType := ← mime.orElse? "" Json.asText?
    caption := ← caption.orElse? none (Json.asOption? Json.asText?)
    voiceNote := ← ptt.orElse? false Json.asBool?
    seconds := ← seconds.orElse? 0 (Json.asNat? bound32)
    fileName := ← name.orElse? none (Json.asOption? Json.asText?) }

/-- The JSON form of a file to be sent. -/
def MediaInput.toJson (m : MediaInput) : Json :=
  .obj [("data", .bytes m.data), ("mime_type", .text m.mimeType)]

/-- The file of a JSON form. -/
def MediaInput.ofJson? (v : Json) : Option MediaInput := do
  let [data, mime] ← v.slots? ["data", "mime_type"] | none
  return { data := ← data.required? Json.asBytes?, mimeType := ← mime.required? Json.asText? }

/-- The JSON form of content. -/
def Content.toJson : Content → Json
  | .text body => .obj [("Text", .obj [("body", .text body)])]
  | .image media caption =>
    .obj [("Image", .obj [("media", media.toJson), ("caption", .opt .text caption)])]
  | .video media caption =>
    .obj [("Video", .obj [("media", media.toJson), ("caption", .opt .text caption)])]
  | .audio media voiceNote seconds =>
    .obj [("Audio", .obj
      [("media", media.toJson), ("ptt", .bool voiceNote), ("seconds", .nat seconds)])]
  | .document media fileName caption =>
    .obj [("Document", .obj
      [("media", media.toJson), ("file_name", .opt .text fileName),
        ("caption", .opt .text caption)])]

/-- A file and the text beneath it, in their JSON form. -/
def Content.captioned? (v : Json) : Option (MediaInput × Option String) := do
  let [media, caption] ← v.slots? ["media", "caption"] | none
  return (← media.required? MediaInput.ofJson?, ← caption.optional? Json.asText?)

/-- The content of a JSON form. -/
def Content.ofJson? (v : Json) : Option Content :=
  match v.asVariant? with
  | some ("Text", v) => do
    let [body] ← v.slots? ["body"] | none
    return .text (← body.required? Json.asText?)
  | some ("Image", v) => (captioned? v).map fun (m, c) => .image m c
  | some ("Video", v) => (captioned? v).map fun (m, c) => .video m c
  | some ("Audio", v) => do
    let [media, ptt, seconds] ← v.slots? ["media", "ptt", "seconds"] | none
    return .audio (← media.required? MediaInput.ofJson?) (← ptt.required? Json.asBool?)
      (← seconds.required? (Json.asNat? bound32))
  | some ("Document", v) => do
    let [media, name, caption] ← v.slots? ["media", "file_name", "caption"] | none
    return .document (← media.required? MediaInput.ofJson?) (← name.optional? Json.asText?)
      (← caption.optional? Json.asText?)
  | _ => none

end MessageGateway
