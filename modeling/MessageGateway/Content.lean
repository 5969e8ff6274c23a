import MessageGateway.Content.DocumentName
import MessageGateway.Content.Waveform
import MessageGateway.Dispatch.Error
import MessageGateway.QueueEvent

/-!
# Content of messages

What a caller asks to send. Requests come in one flat shape with the kind as a string; the kind
decides which of the fields count. Files are uploaded before the message is built, and the built
message refers to the upload.

## Main definitions

* `SendRequest`: the flat shape
* `Content`, `Content.ofRequest`, `Content.ofEvent`: what is to be sent
* `Content.validate`: a text needs a body and a file needs bytes
* `Content.build`: the message ready for transmission
-/

namespace MessageGateway

/-- A request in the flat shape. -/
structure SendRequest where
  /-- The name of the kind. -/
  kind : String := ""
  /-- The body of a text. -/
  text : String := ""
  /-- The bytes of a file. -/
  data : List UInt8 := []
  /-- What type of file it is. -/
  mimeType : String := ""
  /-- The text beneath a picture, film or file. -/
  caption : Option String := none
  /-- The sound is a voice note. -/
  voiceNote : Bool := false
  /-- How long the sound plays. -/
  seconds : Nat := 0
  /-- The name of a file. -/
  fileName : Option String := none
  deriving DecidableEq, Repr

/-- A file to be sent. -/
structure MediaInput where
  /-- Its bytes. -/
  data : List UInt8
  /-- What type of file it is. -/
  mimeType : String
  deriving DecidableEq, Repr

/-- What is to be sent. -/
inductive Content where
  /-- Plain text. -/
  | text (body : String)
  /-- A picture. -/
  | image (media : MediaInput) (caption : Option String)
  /-- A film. -/
  | video (media : MediaInput) (caption : Option String)
  /-- Sound. -/
  | audio (media : MediaInput) (voiceNote : Bool) (seconds : Nat)
  /-- A file. -/
  | document (media : MediaInput) (fileName : Option String) (caption : Option String)
  deriving DecidableEq, Repr

namespace Content

/-- What the message carries. -/
def kind : Content → MessageKind
  | .text _ => .text
  | .image .. => .image
  | .video .. => .video
  | .audio .. => .audio
  | .document .. => .document

/-- The file and the category it is stored under, unless the content is text. -/
def media? : Content → Option (MediaInput × MediaCategory)
  | .text _ => none
  | .image media _ => some (media, .image)
  | .video media _ => some (media, .video)
  | .audio media _ _ => some (media, .audio)
  | .document media _ _ => some (media, .document)

/-- A text needs a body, and everything else needs bytes. -/
def validate (c : Content) : Except DispatchError Unit :=
  match c with
  | .text body =>
    if body.isEmpty then .error (.invalidPayload "text message requires a body") else .ok ()
  | c =>
    if c.media?.any fun file => !file.1.data.isEmpty then .ok ()
    else .error (.invalidPayload (c.kind.name ++ " message requires media content"))

/-- The content that a request asks for; blanks around the name of the kind do not count, and a
blank file name is none. -/
def ofRequest (r : SendRequest) : Except DispatchError Content :=
  let media : MediaInput := ⟨r.data, r.mimeType⟩
  match MessageKind.parse? (Text.trim r.kind) with
  | none => .error (.unsupportedMediaType r.kind)
  | some .text => .ok (.text r.text)
  | some .image => .ok (.image media r.caption)
  | some .video => .ok (.video media r.caption)
  | some .audio => .ok (.audio media r.voiceNote r.seconds)
  | some .document =>
    .ok (.document media (r.fileName.filter fun n => !Text.isBlankText n) r.caption)

/-- The content of a queue event, which carries no bytes. -/
def ofEvent (e : QueueEvent) : Except DispatchError Content :=
  ofRequest { kind := e.kind, text := e.text }

/-- The type that voice notes in an Ogg container are sent with. -/
def voiceNoteType : String := "audio/ogg; codecs=opus"

/-- The type that sound is sent with. -/
def audioType (mimeType : String) (voiceNote : Bool) : String :=
  if voiceNote && Text.occurs "audio/ogg".toList mimeType.toList then voiceNoteType else mimeType

/-- The sidecar of a voice note. -/
def sidecar : List UInt8 :=
  List.replicate 16 0

/-- The message that refers to an upload. The random words make the waveform of a voice note. -/
def buildMedia (c : Content) (u : UploadResult) (now : Timestamp) (words : List UInt64) :
    Outbound :=
  match c with
  | .text body => .text body
  | .image media caption => .image ⟨u, media.mimeType, caption⟩
  | .video media caption => .video ⟨u, media.mimeType, caption⟩
  | .audio media voiceNote seconds =>
    .audio
      { media := ⟨u, audioType media.mimeType voiceNote, none⟩
        voiceNote, seconds
        waveform := if voiceNote then some (Waveform.waveform words) else none
        sidecar := if voiceNote then some sidecar else none
        keyTime := now.seconds }
  | .document media fileName caption =>
    .document ⟨⟨u, media.mimeType, caption⟩, fileName.getD (documentName media.mimeType)⟩

/-- The message ready for transmission: a text as it is, everything else with its upload. -/
def build (c : Content) (upload : Option UploadResult) (now : Timestamp) (words : List UInt64) :
    Except DispatchError Outbound :=
  match c, upload with
  | .text body, _ => .ok (.text body)
  | c, some u => .ok (c.buildMedia u now words)
  | c, none => .error (.invalidPayload (c.kind.name ++ " content was not uploaded"))

end Content

end MessageGateway
