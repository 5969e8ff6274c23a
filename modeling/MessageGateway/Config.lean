import MessageGateway.Text.Parts
import MessageGateway.Text.Quoted

/-!
# Configuration

All durations are in milliseconds. A configuration is checked once, before anything runs.

## Main definitions

* `DispatchConfig`, `OutboxConfig`, `HistorySyncConfig`, `ResolverConfig`, `GatewayConfig`
* `GatewayConfig.validate`: the configuration can be run with, or what is wrong with it
-/

namespace MessageGateway

/-- How long a send waits for its session. -/
structure DispatchConfig where
  /-- The longest wait for a session to become ready. -/
  readyTimeout : Nat := 10000
  /-- The pause between two looks at the session. -/
  pollInterval : Nat := 500
  /-- The wait after which the instance shows presence once. -/
  presenceAfter : Nat := 2000
  deriving DecidableEq, Repr

/-- How queued messages are worked on. -/
structure OutboxConfig where
  /-- The number of workers. -/
  workers : Nat := 5
  /-- How long a worker waits for an event. -/
  dequeueTimeout : Nat := 1000
  /-- The pause between two recovery sweeps. -/
  recoveryInterval : Nat := 30000
  /-- The most records that a sweep enqueues. -/
  recoveryBatch : Nat := 50
  deriving DecidableEq, Repr

/-- How history-sync cycles run. -/
structure HistorySyncConfig where
  /-- How long a cycle takes. -/
  completionDelay : Nat := 10000
  deriving DecidableEq, Repr

/-- How destinations are resolved. -/
structure ResolverConfig where
  /-- Numbers that begin so are domestic and may have a mobile digit. -/
  countryCode : String := "55"
  /-- The server of users. -/
  userServer : String := "s.whatsapp.net"
  /-- The digit that long mobile numbers have after the area code. -/
  mobileDigit : Char := '9'
  deriving DecidableEq, Repr

/-- The configuration of a gateway. -/
structure GatewayConfig where
  /-- How long a send waits for its session. -/
  dispatch : DispatchConfig := {}
  /-- How queued messages are worked on. -/
  outbox : OutboxConfig := {}
  /-- How history-sync cycles run. -/
  historySync : HistorySyncConfig := {}
  /-- How destinations are resolved. -/
  resolver : ResolverConfig := {}
  deriving DecidableEq, Repr

/-- What is wrong with a configuration. -/
inductive ConfigError where
  /-- A duration of the dispatch is zero. -/
  | zeroDispatchTiming
  /-- The pause between two looks is not shorter than the wait. -/
  | pollNotShorter
  /-- There are no workers. -/
  | noWorkers
  /-- Sweeps enqueue nothing. -/
  | emptyBatch
  /-- A duration of the outbox is zero. -/
  | zeroOutboxInterval
  /-- The country code is no number. -/
  | countryCode (code : String)
  /-- The server of users or the mobile digit is missing. -/
  | incompleteResolver
  deriving DecidableEq, Repr

/-- The wording of the error. -/
def ConfigError.message (e : ConfigError) : String :=
  "invalid config: " ++
    match e with
    | .zeroDispatchTiming => "dispatch timings must be non-zero"
    | .pollNotShorter => "ready_poll_interval_ms must be shorter than ready_timeout_ms"
    | .noWorkers => "outbox.workers must be > 0"
    | .emptyBatch => "outbox.recovery_batch must be > 0"
    | .zeroOutboxInterval => "outbox intervals must be non-zero"
    | .countryCode code =>
      "resolver.default_country_prefix must be digits, got " ++ Text.quoted code
    | .incompleteResolver => "resolver.user_server and resolver.mobile_digit are required"

/-- The durations fit together. -/
def DispatchConfig.validate (c : DispatchConfig) : Except ConfigError Unit :=
  if c.readyTimeout = 0 ∨ c.pollInterval = 0 then .error .zeroDispatchTiming
  else if c.readyTimeout ≤ c.pollInterval then .error .pollNotShorter
  else .ok ()

/-- The outbox has something to run with. -/
def OutboxConfig.validate (c : OutboxConfig) : Except ConfigError Unit :=
  if c.workers = 0 then .error .noWorkers
  else if c.recoveryBatch = 0 then .error .emptyBatch
  else if c.dequeueTimeout = 0 ∨ c.recoveryInterval = 0 then .error .zeroOutboxInterval
  else .ok ()

/-- The country code is a number, and the rest is there. -/
def ResolverConfig.validate (c : ResolverConfig) : Except ConfigError Unit :=
  if c.countryCode.isEmpty ∨ c.countryCode.toList.all Text.isDigit = false then
    .error (.countryCode c.countryCode)
  else if c.userServer.isEmpty ∨ Text.isDigit c.mobileDigit = false then
    .error .incompleteResolver
  else .ok ()

/-- The first thing that is wrong with the configuration, if anything is. -/
def GatewayConfig.validate (c : GatewayConfig) : Except ConfigError Unit := do
  c.dispatch.validate
  c.outbox.validate
  c.resolver.validate

end MessageGateway
