import MessageGateway.Message

/-!
# Outbound messages

What is handed to a session for transmission. Media are not part of it: it names an uploaded file
and how to decrypt it.

## Main definitions

* `MediaCategory`: the kinds of files that the network stores
* `UploadResult`: where an uploaded file is and how it is encrypted
* `MediaEnvelope`, `AudioEnvelope`, `DocumentEnvelope`: references to uploaded files
* `Outbound`, `Outbound.kind`, `Outbound.summary`: a message ready for transmission
-/

namespace MessageGateway

/-- The kinds of files that the network stores. -/
inductive MediaCategory where
  /-- Pictures. -/
  | image
  /-- Films. -/
  | video
  /-- Sound. -/
  | audio
  /-- Files. -/
  | document
  deriving DecidableEq, Repr

/-- The name of the category. -/
def MediaCategory.name : MediaCategory → String
  | .image => "Image"
  | .video => "Video"
  | .audio => "Audio"
  | .document => "Document"

/-- Where an uploaded file is and how it is encrypted. -/
structure UploadResult where
  /-- Where it can be fetched. -/
  url : String
  /-- The path of the file at the network's servers. -/
  directPath : String
  /-- The key of the encryption. -/
  mediaKey : List UInt8
  /-- The hash of the encrypted file. -/
  encryptedHash : List UInt8
  /-- The hash of the file. -/
  fileHash : List UInt8
  /-- The length of the file. -/
  fileLength : Nat
  deriving DecidableEq, Repr

/-- A reference to an uploaded file. -/
structure MediaEnvelope where
  /-- The file. -/
  upload : UploadResult
  /-- What type of file it is. -/
  mimeType : String
  /-- The text beneath it. -/
  caption : Option String
  deriving DecidableEq, Repr

/-- A reference to uploaded sound. -/
structure AudioEnvelope where
  /-- The file. -/
  media : MediaEnvelope
  /-- The sound is a voice note. -/
  voiceNote : Bool
  /-- How long it plays. -/
  seconds : Nat
  /-- The picture of a voice note's loudness. -/
  waveform : Option (List UInt8)
  /-- What a voice note needs for playing while it loads. -/
  sidecar : Option (List UInt8)
  /-- When the key of the encryption was made, in seconds since the start of 1970. -/
  keyTime : Int
  deriving DecidableEq, Repr

/-- A reference to an uploaded file that has a name. -/
structure DocumentEnvelope where
  /-- The file. -/
  media : MediaEnvelope
  /-- The name of the file. -/
  fileName : String
  deriving DecidableEq, Repr

/-- A message ready for transmission. -/
inductive Outbound where
  /-- Plain text. -/
  | text (body : String)
  /-- A picture. -/
  | image (media : MediaEnvelope)
  /-- A film. -/
  | video (media : MediaEnvelope)
  /-- Sound. -/
  | audio (sound : AudioEnvelope)
  /-- A file. -/
  | document (file : DocumentEnvelope)
  deriving DecidableEq, Repr

namespace Outbound

/-- What the message carries. -/
def kind : Outbound → MessageKind
  | .text _ => .text
  | .image _ => .image
  | .video _ => .video
  | .audio _ => .audio
  | .document _ => .document

/-- The summary that a record keeps of the message. -/
def summary : Outbound → String
  | .text body => body
  | .image media | .video media => "media:" ++ media.mimeType
  | .audio sound => "media:" ++ sound.media.mimeType
  | .document file => "document:" ++ file.fileName ++ ":" ++ file.media.mimeType

end Outbound

end MessageGateway
