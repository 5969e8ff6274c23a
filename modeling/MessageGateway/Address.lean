import MessageGateway.Text.Blank
import MessageGateway.Text.Parts

/-!
# Network addresses

A destination on the messaging network is a user at a server. Groups and broadcast lists are the
users of two servers of their own.

## Main definitions

* `Address`: a user at a server
* `Address.parse`: the address that a text spells, or why it spells none
* `Address.isGroup`: the address of a group or a broadcast list
* `denotesGroup`: a text that mentions the server of groups or of broadcast lists
-/

namespace MessageGateway

/-- A destination on the network. -/
structure Address where
  /-- Who, at the server. -/
  user : String
  /-- The part of the network. -/
  server : String
  deriving DecidableEq, Repr

/-- Why a text names no destination. -/
inductive AddressError where
  /-- The text is blank. -/
  | empty
  /-- The text is no user at a server. -/
  | malformed (text : String)
  deriving DecidableEq, Repr

/-- The wording of the error. -/
def AddressError.message : AddressError → String
  | .empty => "destination is empty"
  | .malformed text => "malformed destination: " ++ text

/-- The server of groups. -/
def groupServer : String := "g.us"

/-- The server of broadcast lists. -/
def broadcastServer : String := "broadcast"

namespace Address

/-- The text of an address. -/
def display (a : Address) : String :=
  a.user ++ "@" ++ a.server

/-- The address names a group or a broadcast list. -/
def isGroup (a : Address) : Bool :=
  a.server == groupServer || a.server == broadcastServer

/-- The address that the trimmed text spells: one `@` with something on both of its sides. -/
def parse (s : String) : Except AddressError Address :=
  let trimmed := Text.trimChars s.toList
  if trimmed.isEmpty then .error .empty
  else
    match Text.cut? '@' trimmed with
    | none => .error (.malformed (String.ofList trimmed))
    | some (user, server) =>
      if user.isEmpty || server.isEmpty || server.contains '@' then
        .error (.malformed (String.ofList trimmed))
      else .ok ⟨String.ofList user, String.ofList server⟩

end Address

/-- The text mentions, right after an `@`, the server of groups or of broadcast lists. -/
def denotesGroup (s : String) : Bool :=
  Text.occurs ('@' :: groupServer.toList) s.toList ||
    Text.occurs ('@' :: broadcastServer.toList) s.toList

end MessageGateway
