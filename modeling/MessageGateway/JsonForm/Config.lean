import MessageGateway.Config
import MessageGateway.JsonForm.Basic
import MessageGateway.Json.Parser

/-!
# JSON forms of configurations

Whatever a configuration does not say has the default.

## Main definitions

* `GatewayConfig.toJson`, `GatewayConfig.ofJson?`, and those of its parts
* `GatewayConfig.load`: a checked configuration from its text
-/

namespace MessageGateway

/-- The JSON form of a dispatch configuration. -/
def DispatchConfig.toJson (c : DispatchConfig) : Json :=
  .obj [("ready_timeout_ms", .nat c.readyTimeout), ("ready_poll_interval_ms", .nat c.pollInterval),
    ("presence_probe_after_ms", .nat c.presenceAfter)]

/-- The dispatch configuration of a JSON form. -/
def DispatchConfig.ofJson? (v : Json) : Option DispatchConfig := do
  let default : DispatchConfig := {}
  let [timeout, interval, presence] ← v.slots?
    ["ready_timeout_ms", "ready_poll_interval_ms", "presence_probe_after_ms"] | none
  return {
    readyTimeout := ← timeout.orElse? default.readyTimeout (Json.asNat? bound64)
    pollInterval := ← interval.orElse? default.pollInterval (Json.asNat? bound64)
    presenceAfter := ← presence.orElse? default.presenceAfter (Json.asNat? bound64) }

/-- The JSON form of an outbox configuration. -/
def OutboxConfig.toJson (c : OutboxConfig) : Json :=
  .obj [("workers", .nat c.workers), ("dequeue_timeout_ms", .nat c.dequeueTimeout),
    ("recovery_interval_ms", .nat c.recoveryInterval), ("recovery_batch", .nat c.recoveryBatch)]

/-- The outbox configuration of a JSON form. -/
def OutboxConfig.ofJson? (v : Json) : Option OutboxConfig := do
  let default : OutboxConfig := {}
  let [workers, timeout, interval, batch] ← v.slots?
    ["workers", "dequeue_timeout_ms", "recovery_interval_ms", "recovery_batch"] | none
  return {
    workers := ← workers.orElse? default.workers (Json.asNat? bound64)
    dequeueTimeout := ← timeout.orElse? default.dequeueTimeout (Json.asNat? bound64)
    recoveryInterval := ← interval.orElse? default.recoveryInterval (Json.asNat? bound64)
    recoveryBatch := ← batch.orElse? default.recoveryBatch (Json.asNat? bound64) }

/-- The JSON form of a history-sync configuration. -/
def HistorySyncConfig.toJson (c : HistorySyncConfig) : Json :=
  .obj [("completion_delay_ms", .nat c.completionDelay)]

/-- The history-sync configuration of a JSON form. -/
def HistorySyncConfig.ofJson? (v : Json) : Option HistorySyncConfig := do
  let default : HistorySyncConfig := {}
  let [delay] ← v.slots? ["completion_delay_ms"] | none
  return { completionDelay := ← delay.orElse? default.completionDelay (Json.asNat? bound64) }

/-- The JSON form of a resolver configuration. -/
def ResolverConfig.toJson (c : ResolverConfig) : Json :=
  .obj [("default_country_prefix", .text c.countryCode), ("user_server", .text c.userServer),
    ("mobile_digit", .text (String.singleton c.mobileDigit))]

/-- The resolver configuration of a JSON form. -/
def ResolverConfig.ofJson? (v : Json) : Option ResolverConfig := do
  let default : ResolverConfig := {}
  let [code, server, digit] ←
    v.slots? ["default_country_prefix", "user_server", "mobile_digit"] | none
  return {
    countryCode := ← code.orElse? default.countryCode Json.asText?
    userServer := ← server.orElse? default.userServer Json.asText?
    mobileDigit := ← digit.orElse? default.mobileDigit Json.asChar? }

/-- The JSON form of a configuration. -/
def GatewayConfig.toJson (c : GatewayConfig) : Json :=
  .obj [("dispatch", c.dispatch.toJson), ("outbox", c.outbox.toJson),
    ("history_sync", c.historySync.toJson), ("resolver", c.resolver.toJson)]

/-- The configuration of a JSON form. -/
def GatewayConfig.ofJson? (v : Json) : Option GatewayConfig := do
  let [dispatch, outbox, sync, resolver] ←
    v.slots? ["dispatch", "outbox", "history_sync", "resolver"] | none
  return {
    dispatch := ← dispatch.orElse? {} DispatchConfig.ofJson?
    outbox := ← outbox.orElse? {} OutboxConfig.ofJson?
    historySync := ← sync.orElse? {} HistorySyncConfig.ofJson?
    resolver := ← resolver.orElse? {} ResolverConfig.ofJson? }

/-- Why a text is no configuration. -/
inductive LoadError where
  /-- The text cannot be read. -/
  | unreadable
  /-- The configuration cannot be run with. -/
  | invalid (e : ConfigError)
  deriving DecidableEq, Repr

/-- The configuration that a text spells, checked. -/
def GatewayConfig.load (s : String) : Except LoadError GatewayConfig :=
  match (Json.read? s).bind ofJson? with
  | none => .error .unreadable
  | some c =>
    match c.validate with
    | .error e => .error (.invalid e)
    | .ok () => .ok c

end MessageGateway
