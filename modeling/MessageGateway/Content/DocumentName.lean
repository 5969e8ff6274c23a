import MessageGateway.Text.Blank
import MessageGateway.Text.Parts

/-!
# Names of documents

A document without a name of its own is called `document`, with the extension that is registered
for its type.

## Main definitions

* `essence mime`: a type without parameters, in lower case
* `documentName mime`: the name of a document of this type
-/

namespace MessageGateway

/-- The type without its parameters, in lower case and without blanks at its ends. -/
def essence (mime : String) : String :=
  Text.lowerAscii (Text.trim (String.ofList (mime.toList.takeWhile (· != ';'))))

/-- The extensions registered for types. -/
def documentExtensions : List (String × String) :=
  [("application/pdf", "pdf"),
    ("application/msword", "doc"),
    ("application/vnd.openxmlformats-officedocument.wordprocessingml.document", "docx"),
    ("application/vnd.ms-excel", "xls"),
    ("application/vnd.openxmlformats-officedocument.spreadsheetml.sheet", "xlsx"),
    ("application/vnd.ms-powerpoint", "ppt"),
    ("application/vnd.openxmlformats-officedocument.presentationml.presentation", "pptx"),
    ("application/zip", "zip"),
    ("application/json", "json"),
    ("text/plain", "txt"),
    ("text/csv", "csv")]

/-- The name of a document of the type `mime`. -/
def documentName (mime : String) : String :=
  match documentExtensions.find? fun e => e.1 == essence mime with
  | some (_, extension) => "document." ++ extension
  | none => "document"

end MessageGateway
