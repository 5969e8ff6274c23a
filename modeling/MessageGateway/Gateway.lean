import MessageGateway.Config

/-!
# Putting a gateway together

A gateway cannot do without sessions and without stores for messages and instances; for everything
else it brings something that keeps all in memory. Whatever is missing is found out before anything
runs.

## Main definitions

* `Wiring`: what a gateway was given
* `Wiring.check c`: nothing is missing and the configuration can be run with, or what is wrong
-/

namespace MessageGateway

/-- Which of the things that it cannot do without a gateway was given. -/
structure Wiring where
  /-- The sessions of the instances. -/
  sessions : Bool := true
  /-- The store of messages. -/
  messages : Bool := true
  /-- The store of instances. -/
  instances : Bool := true
  deriving DecidableEq, Repr

/-- Why a gateway could not be put together. -/
inductive BuildError where
  /-- There are no sessions. -/
  | noSessions
  /-- There is no store of messages. -/
  | noMessages
  /-- There is no store of instances. -/
  | noInstances
  /-- The configuration cannot be run with. -/
  | config (cause : ConfigError)
  deriving DecidableEq, Repr

/-- The wording of the error. -/
def BuildError.message : BuildError → String
  | .noSessions =>
    "Missing session gateway. Every send needs one; wire it with `session_gateway()`."
  | .noMessages => "Missing message store. Wire it with `message_store()`."
  | .noInstances => "Missing instance store. Wire it with `instance_store()`."
  | .config cause => cause.message

/-- The first thing that is wrong, if anything is; the configuration is looked at first. -/
def Wiring.check (w : Wiring) (c : GatewayConfig) : Except BuildError Unit := do
  c.validate.mapError .config
  if !w.sessions then throw .noSessions
  if !w.messages then throw .noMessages
  if !w.instances then throw .noInstances

end MessageGateway
