import MessageGateway.Address
import MessageGateway.Content.Outbound
import MessageGateway.Identifier

/-!
# Sessions

A session connects one instance to the network. It can be asked whether it is logged in, to show
presence, to tell which numbers exist, to store files, and to transmit messages. All but the first
can fail.

## Main definitions

* `Session`: the session of an instance
* `TransportError`: why a call of a session failed
* `ExistenceResult`: the answer to whether a number exists
-/

namespace MessageGateway

/-- The connection of one instance to the network. -/
structure Session where
  /-- The instance. -/
  owner : InstanceId
  /-- The network knows the session. -/
  loggedIn : Bool
  deriving DecidableEq, Repr

/-- Why a call of a session failed. -/
inductive TransportError where
  /-- The network does not know the session. -/
  | notLoggedIn
  /-- No answer came. -/
  | timeout
  /-- The network refused, and said why. -/
  | rejected (reason : String)
  /-- Anything else. -/
  | other (text : String)
  deriving DecidableEq, Repr

/-- The wording of the error. -/
def TransportError.message : TransportError → String
  | .notLoggedIn => "session is not logged in"
  | .timeout => "transport timed out"
  | .rejected reason => "rejected by remote: " ++ reason
  | .other text => text

/-- The answer to whether a number exists on the network. -/
structure ExistenceResult where
  /-- The number as it was asked. -/
  query : String
  /-- The address that the network gives for it. -/
  address : Address
  /-- The number exists. -/
  found : Bool
  deriving DecidableEq, Repr

end MessageGateway
