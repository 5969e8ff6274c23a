import MessageGateway.Content
import MessageGateway.Proofs.Text.Parts
import Mathlib.Data.List.Infix

/-!
# What is asked for is what is sent

A request says what it asks for by the name of a kind, and the kind says which of its other fields
count. The message that is built has this kind and says what those fields say. It refers to the
upload as it came back, and has what voice notes and documents need besides.

## Main definitions

* `Outbound.body?`, `Outbound.media?`, `Outbound.sound?`, `Outbound.fileName?`: the parts of a
  message, each of which only some kinds have
* `SendRequest.sentType`, `SendRequest.sentName`: the type and the name a file is sent with
* `SendRequest.MetBy`: a message says what is asked for

## Main results

* `MessageKind.parse?_eq_some_iff`: a kind goes by its name alone
* `Content.metBy_buildMedia`: the message that is built says what is asked for
* `Content.built_as_asked`: from the request to the message, and what is refused on the way
-/

namespace MessageGateway

/-! ## Names -/

/-- A kind goes by its name and by nothing else. -/
theorem MessageKind.parse?_eq_some_iff {s : String} {k : MessageKind} :
    parse? s = some k ↔ s = k.name := by
  constructor
  · intro h
    obtain ⟨entry, found, rfl⟩ := Option.map_eq_some_iff.1 h
    have named : (entry.1 == s) = true :=
      List.find?_some (p := fun e : String × MessageKind => e.1 == s) found
    obtain ⟨k, -, rfl⟩ := List.mem_map.1 (List.mem_of_find?_eq_some found)
    exact (beq_iff_eq.1 named).symm
  · rintro rfl
    cases k <;> decide

theorem MessageKind.parse?_eq_none_iff {s : String} :
    parse? s = none ↔ ∀ k : MessageKind, s ≠ k.name := by
  simp [Option.eq_none_iff_forall_ne_some, parse?_eq_some_iff]

/-- The category under which a file of the kind is stored. -/
def MessageKind.category? : MessageKind → Option MediaCategory
  | .text => none
  | .image => some .image
  | .video => some .video
  | .audio => some .audio
  | .document => some .document

/-- A text that goes on after something that is not blank is not blank. -/
theorem Text.isBlankText_append_eq_false {s t : String} (h : isBlankText s = false) :
    isBlankText (s ++ t) = false := by
  rw [isBlankText, String.toList_append, List.all_append]
  exact Bool.and_eq_false_imp.2 fun blank => absurd (blank.symm.trans h) (by decide)

/-- The name of a document is never blank. -/
theorem isBlankText_documentName (mime : String) :
    Text.isBlankText (documentName mime) = false := by
  unfold documentName
  split
  · exact Text.isBlankText_append_eq_false (by decide)
  · decide

/-! ## Messages that are asked for -/

namespace Outbound

/-- The body of a text. -/
def body? : Outbound → Option String
  | .text body => some body
  | .image _ | .video _ | .audio _ | .document _ => none

/-- The reference to the uploaded file, unless the message is text. -/
def media? : Outbound → Option MediaEnvelope
  | .text _ => none
  | .image media | .video media => some media
  | .audio sound => some sound.media
  | .document file => some file.media

/-- The sound, with what only sound has. -/
def sound? : Outbound → Option AudioEnvelope
  | .audio sound => some sound
  | .text _ | .image _ | .video _ | .document _ => none

/-- The name of a document. -/
def fileName? : Outbound → Option String
  | .document file => some file.fileName
  | .text _ | .image _ | .video _ | .audio _ => none

/-- The waveform of a voice note. -/
def waveform? (o : Outbound) : Option (List UInt8) :=
  o.sound?.bind AudioEnvelope.waveform

/-- The sidecar of a voice note. -/
def sidecar? (o : Outbound) : Option (List UInt8) :=
  o.sound?.bind AudioEnvelope.sidecar

end Outbound

namespace SendRequest

/-- The type that a file of a kind is sent with: the one that the request gives, unless it is a
voice note in an Ogg container. -/
def sentType (r : SendRequest) (k : MessageKind) : String :=
  if k = .audio ∧ r.voiceNote ∧ "audio/ogg".toList <:+: r.mimeType.toList then
    "audio/ogg; codecs=opus"
  else r.mimeType

/-- The name that a document is sent with: the one that the request gives, unless it is blank. -/
def sentName (r : SendRequest) : String :=
  match r.fileName with
  | some name => if Text.isBlankText name then documentName r.mimeType else name
  | none => documentName r.mimeType

/-- The message says what the request asks for and refers to the upload. The key of the upload is
of the time `now`. -/
structure MetBy (r : SendRequest) (u : UploadResult) (now : Timestamp) (o : Outbound) : Prop where
  /-- The kind is the one that is named. -/
  kind : o.kind.name = Text.trim r.kind
  /-- A text has the body that is given. -/
  body : o.body? = if o.kind = .text then some r.text else none
  /-- All others have the upload with its type, and with the caption unless they are sound. -/
  media : o.media? =
    if o.kind = .text then none
    else some ⟨u, r.sentType o.kind, if o.kind = .audio then none else r.caption⟩
  /-- Sound is a voice note if that is asked for, and plays as long as is said. -/
  sound : (o.sound?.map fun s => (s.voiceNote, s.seconds, s.keyTime)) =
    if o.kind = .audio then some (r.voiceNote, r.seconds, now.seconds) else none
  /-- Voice notes have a waveform of 64 samples. -/
  waveform : o.waveform?.map List.length =
    if o.kind = .audio ∧ r.voiceNote then some 64 else none
  /-- Voice notes have a sidecar of 16 zeros. -/
  sidecar : o.sidecar? =
    if o.kind = .audio ∧ r.voiceNote then some (List.replicate 16 0) else none
  /-- A document has its name. -/
  name : o.fileName? = if o.kind = .document then some r.sentName else none

/-- A document has the name that is given if that is not blank. -/
theorem sentName_of_fileName {r : SendRequest} {name : String} (given : r.fileName = some name)
    (h : Text.isBlankText name = false) : r.sentName = name := by
  rw [sentName, given]
  exact if_neg (by simp [h])

/-- A document without a name, or with a blank one, has a name for its type. -/
theorem sentName_of_blank {r : SendRequest}
    (h : ∀ name, r.fileName = some name → Text.isBlankText name = true) :
    r.sentName = documentName r.mimeType := by
  unfold sentName
  split
  · exact if_pos (h _ ‹_›)
  · rfl

/-- The name that a document is sent with is never blank. -/
theorem isBlankText_sentName (r : SendRequest) : Text.isBlankText r.sentName = false := by
  unfold sentName
  split
  · split
    · exact isBlankText_documentName _
    · simp_all
  · exact isBlankText_documentName _

end SendRequest

namespace Content

variable {r : SendRequest} {c : Content} {e : DispatchError}

/-! ## What is refused -/

/-- A request is refused only for a name that no kind has. -/
theorem ofRequest_eq_error_iff :
    ofRequest r = .error e ↔
      (∀ k : MessageKind, Text.trim r.kind ≠ k.name) ∧ e = .unsupportedMediaType r.kind := by
  rw [← MessageKind.parse?_eq_none_iff]
  unfold ofRequest
  cases MessageKind.parse? (Text.trim r.kind) with
  | none => simp [eq_comm]
  | some kind => cases kind <;> simp

/-- Content is refused only for an empty body or for an empty file. -/
theorem validate_eq_error_iff :
    c.validate = .error e ↔
      (c = .text "" ∧ e = .invalidPayload "text message requires a body") ∨
        ∃ media category, c.media? = some (media, category) ∧ media.data = [] ∧
          e = .invalidPayload (c.kind.name ++ " message requires media content") := by
  cases c with
  | text body => by_cases empty : body = "" <;> simp [validate, media?, empty, @eq_comm _ e]
  | image media | video media | audio media | document media =>
    by_cases empty : media.data = [] <;> simp [validate, media?, empty, @eq_comm _ e]

/-! ## What is built -/

/-- With the upload of its file, if it has one, the message is built. -/
theorem build_upload (c : Content) (u : UploadResult) (now : Timestamp) (words : List UInt64) :
    c.build (c.media?.map fun _ => u) now words = .ok (c.buildMedia u now words) := by
  cases c <;> rfl

theorem kind_buildMedia (c : Content) (u : UploadResult) (now : Timestamp) (words : List UInt64) :
    (c.buildMedia u now words).kind = c.kind := by
  cases c <;> rfl

/-- Sound is sent with its type. -/
theorem audioType_eq_sentType (r : SendRequest) :
    audioType r.mimeType r.voiceNote = r.sentType .audio := by
  unfold audioType SendRequest.sentType
  refine ite_congr (propext ?_) (fun _ => rfl) fun _ => rfl
  rw [Bool.and_eq_true, Text.occurs_iff]
  exact ⟨fun h => ⟨rfl, h⟩, And.right⟩

/-- A document is sent with its name. -/
theorem getD_filter_eq_sentName (r : SendRequest) :
    (r.fileName.filter fun n => !Text.isBlankText n).getD (documentName r.mimeType) =
      r.sentName := by
  unfold SendRequest.sentName
  generalize documentName r.mimeType = derived
  cases r.fileName with
  | none => rfl
  | some name => cases blank : Text.isBlankText name <;> simp [Option.filter, blank]

/-- What is made of a request is of the kind that is named, and its file is the one that is given,
under the category of the kind. -/
theorem kind_and_media?_of_ofRequest (made : ofRequest r = .ok c) :
    Text.trim r.kind = c.kind.name ∧
      c.media? = c.kind.category?.map fun category => (⟨r.data, r.mimeType⟩, category) := by
  unfold ofRequest at made
  split at made
  · cases made
  all_goals
    rename_i named
    cases made
    exact ⟨MessageKind.parse?_eq_some_iff.1 named, rfl⟩

/-- **The message that is built says what is asked for.** -/
theorem metBy_buildMedia (made : ofRequest r = .ok c) (u : UploadResult) (now : Timestamp)
    (words : List UInt64) : r.MetBy u now (c.buildMedia u now words) := by
  have kind : (c.buildMedia u now words).kind.name = Text.trim r.kind := by
    rw [kind_buildMedia, (kind_and_media?_of_ofRequest made).1]
  have sound := audioType_eq_sentType r
  have others {k : MessageKind} (h : k ≠ .audio) : r.sentType k = r.mimeType :=
    if_neg fun voice => h voice.1
  have name := getD_filter_eq_sentName r
  unfold ofRequest at made
  split at made <;> cases made <;> refine ⟨kind, ?_, ?_, ?_, ?_, ?_, ?_⟩
  all_goals
    simp [buildMedia, sidecar, Outbound.kind, Outbound.body?, Outbound.media?, Outbound.sound?,
      Outbound.waveform?, Outbound.sidecar?, Outbound.fileName?, *]

/-- **From the request to the message.** Whatever is asked for by the name of a kind, the message is
built, is of this kind and says what the fields of the request say, with the upload as it came back.
What is uploaded for it is the file of the request, under the category of the kind. A document has
the name that is given, or one for its type if that is blank, and its name is never blank. A request
is refused only for a name that no kind has, and content only for an empty body or an empty file. -/
theorem built_as_asked (r : SendRequest) (u : UploadResult) (now : Timestamp)
    (words : List UInt64) :
    (∀ c, ofRequest r = .ok c →
      c.media? = c.kind.category?.map (fun category => (⟨r.data, r.mimeType⟩, category)) ∧
      ∃ o, c.build (c.media?.map fun _ => u) now words = .ok o ∧ o.kind = c.kind ∧
        r.MetBy u now o) ∧
    (∀ name, r.fileName = some name → Text.isBlankText name = false → r.sentName = name) ∧
    ((∀ name, r.fileName = some name → Text.isBlankText name = true) →
      r.sentName = documentName r.mimeType) ∧
    Text.isBlankText r.sentName = false ∧
    ((∃ e, ofRequest r = .error e) ↔ ∀ k : MessageKind, Text.trim r.kind ≠ k.name) ∧
    ∀ c : Content, (∃ e, c.validate = .error e) ↔
      c = .text "" ∨ ∃ media category, c.media? = some (media, category) ∧ media.data = [] := by
  refine ⟨fun c made => ⟨(kind_and_media?_of_ofRequest made).2, _, build_upload c u now words,
    kind_buildMedia c u now words, metBy_buildMedia made u now words⟩,
    fun _ => SendRequest.sentName_of_fileName, SendRequest.sentName_of_blank,
    r.isBlankText_sentName, ?_, fun c => ?_⟩
  · simp [ofRequest_eq_error_iff]
  · constructor
    · rintro ⟨e, refused⟩
      obtain ⟨body, -⟩ | ⟨media, category, file, empty, -⟩ := validate_eq_error_iff.1 refused
      exacts [.inl body, .inr ⟨media, category, file, empty⟩]
    · rintro (body | ⟨media, category, file, empty⟩)
      · exact ⟨_, validate_eq_error_iff.2 (.inl ⟨body, rfl⟩)⟩
      · exact ⟨_, validate_eq_error_iff.2 (.inr ⟨media, category, file, empty, rfl⟩)⟩

/-- A file whose name is blank is sent under the name of its type. -/
example (u : UploadResult) :
    (do
      let r : SendRequest :=
        { kind := " document", data := [1], mimeType := "Application/PDF; v=1"
          fileName := some " " }
      let c ← ofRequest r
      c.validate
      c.build (some u) (.ofMillis 0) []) =
    .ok (.document ⟨⟨u, "Application/PDF; v=1", none⟩, "document.pdf"⟩) := by
  rfl

end Content

end MessageGateway
