import MessageGateway.JsonForm.Flat
import MessageGateway.Json.Printer
import MessageGateway.Simulation.World

/-!
# Journals of simulations

## Main definitions

* `Entry.toJson`: a call in the log of a world, as a list of its time, its name and its arguments
* `Entry.sorted`: a log in an order that does not depend on which task ran first
-/

namespace MessageGateway.Simulation.Entry

/-- The name of the call, and its arguments. -/
def words (e : Entry) : List Json :=
  match e.call with
  | .openSession i => [.text "session", .text i.text]
  | .sessionReady i => [.text "ready", .text i.text, .opt .bool e.ready]
  | .showPresence i => [.text "presence", .text i.text]
  | .probe i numbers => [.text "probe", .text i.text, .array .text numbers]
  | .upload i data category =>
    [.text "upload", .text i.text, .text category.name, .nat data.length]
  | .transmit i recipient m => [.text "send", .text i.text, .text recipient.display, m.flat]
  | .createMessage m =>
    [.text "messages.create", m.id.flat, .text m.status.name, .text m.payload]
  | .updateMessage m =>
    [.text "messages.update", m.id.flat, .text m.status.name, .text m.payload]
  | .pendingMessages limit => [.text "messages.get_pending", .nat limit]
  | .updateInstance r => [.text "instances.update", r.flat]
  | .finishCycle i c status _ =>
    [.text "instances.finish", .text i.text, c.flat, .text status.name]
  | .pendingPayloads i none => [.text "history.by_instance", .text i.text]
  | .pendingPayloads i (some c) => [.text "history.by_cycle", .text i.text, c.flat]
  | .markPayload id status _ => [.text "history.status", id.flat, .text status.name]
  | .enqueue event => [.text "queue.enqueue", event.id.flat]
  | .processPayload p => [.text "process", p.id.flat]
  | _ => []

/-- The entry as a list: its time, the name of the call, and its arguments. -/
def toJson (e : Entry) : Json :=
  .list (.nat e.time :: e.words)

/-- What an entry is sorted by: its time, then the text of the rest. -/
def key (e : Entry) : Nat × String :=
  (e.time, (Json.list e.words).write)

/-- The entries by time, and those of one time by their texts. -/
def sorted (log : List Entry) : List Entry :=
  ((log.map fun e => (e.key, e)).mergeSort fun a b =>
    a.1.1 < b.1.1 || (a.1.1 == b.1.1 && a.1.2 ≤ b.1.2)).map (·.2)

end MessageGateway.Simulation.Entry
