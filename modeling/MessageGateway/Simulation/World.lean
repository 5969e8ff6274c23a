import MessageGateway.Memory
import MessageGateway.Simulation.Script
import MessageGateway.Tasks

/-!
# Simulated worlds

A world holds everything around a gateway: its memory, a clock that only the simulation moves, the
scripts of the sessions, the faults to come, the names to be drawn, the tasks, and a log of the
calls that the gateway made.

## Main definitions

* `Blocked`: a program that has stopped at a call
* `World`: everything around a gateway
* `World.answer c w`: what comes of a call
* `World.advance p w`: a program run until it is done or has to wait
-/

namespace MessageGateway.Simulation

/-- What comes of a call. -/
inductive Reply (α : Type) where
  /-- The answer, at once. -/
  | now (a : α)
  /-- The answer, but only at the time `time`. -/
  | later (time : Nat) (a : α)
  /-- An answer that tells why a pause ended. -/
  | paused (deadline : Option Nat) (stops : List Token) (listening : Bool) (answer : Wake → α)
  /-- Nothing, for ever. -/
  | never

/-- A program that has stopped. -/
inductive Blocked (α : Type) where
  /-- It can go on at once. -/
  | ready (p : Program α)
  /-- It goes on at the time `time`. -/
  | later (time : Nat) (p : Program α)
  /-- It goes on when its pause ends. -/
  | paused (deadline : Option Nat) (stops : List Token) (listening : Bool)
    (next : Wake → Program α)
  /-- It goes on when the tasks are over, or at the deadline; it is told whether they are. -/
  | joining (tasks : List TaskId) (deadline : Option Nat) (next : Bool → Program α)
  /-- It never goes on. -/
  | stuck

/-- How the run of a task ends. -/
inductive Finish where
  /-- The task is over. -/
  | over
  /-- The task goes on from somewhere else. -/
  | next (a : Activity)
  /-- The task is over, with a last change of the memory. -/
  | change (f : Memory → Memory)
  /-- The task was a send, and this is its result. -/
  | sent (name : String) (result : Except SendFailure Message)

/-- A task that is not over. -/
structure Thread where
  /-- The task. -/
  id : TaskId
  /-- Where it has stopped. -/
  rest : Blocked Finish

/-- A call that the gateway made, and when. -/
structure Entry where
  /-- The time at which the call began. -/
  time : Nat
  /-- The call. -/
  call : Call
  /-- Whether a session was ready, when that was asked. -/
  ready : Option Bool

/-- Where the names of one kind come from. -/
structure NameSource (kind : IdKind) where
  /-- The names that are drawn first. -/
  given : List (Id kind) := []
  /-- How many were drawn after them. -/
  drawn : Nat := 0

/-- A new name: one of those given, and then 1, 2, 3, … -/
def NameSource.draw {kind : IdKind} (s : NameSource kind) : Id kind × NameSource kind :=
  match s.given with
  | id :: ids => (id, { s with given := ids })
  | [] => (⟨BitVec.ofNat 128 (s.drawn + 1)⟩, { s with drawn := s.drawn + 1 })

/-- Everything around a gateway. -/
structure World where
  /-- The configuration of the gateway. -/
  config : GatewayConfig := {}
  /-- The time of the calendar when the simulation begins, in milliseconds. -/
  start : Int := 0
  /-- Announcements with an exclamation mark are not accepted, and all others are. -/
  picky : Bool := false
  /-- The milliseconds since the simulation began. -/
  clock : Nat := 0
  /-- What the gateway keeps. -/
  memory : Memory := {}
  /-- The scripts of the sessions. -/
  scripts : List (InstanceId × Script) := []
  /-- The faults to come. -/
  faults : List Fault := []
  /-- The names for messages. -/
  messageNames : NameSource .message := {}
  /-- The names for cycles. -/
  cycleNames : NameSource .cycle := {}
  /-- The names for payloads. -/
  payloadNames : NameSource .payload := {}
  /-- How many tasks there were. -/
  spawned : Nat := 0
  /-- A task whose run has ended and that goes on before anything else. -/
  running : Option (TaskId × Activity) := none
  /-- The tasks that are not over; the one that has waited longest comes first. -/
  threads : List Thread := []
  /-- The results of sends in the background. -/
  results : List (String × Except SendFailure Message) := []
  /-- The calls so far, last one first. -/
  log : List Entry := []

namespace World

/-- The time of the calendar. -/
def now (w : World) : Timestamp :=
  .ofMillis (w.start + w.clock)

/-! ## Sessions -/

/-- The script of an instance. -/
def script? (w : World) (i : InstanceId) : Option Script :=
  (w.scripts.find? fun e => e.1 == i).map (·.2)

/-- The world with another script for an instance. -/
def setScript (w : World) (i : InstanceId) (s : Script) : World :=
  { w with scripts :=
      if w.scripts.any fun e => e.1 == i then
        w.scripts.map fun e => if e.1 == i then (i, s) else e
      else w.scripts ++ [(i, s)] }

/-- The world once the instance has begun the cycle that its script tells it to, if any. -/
def superseded (w : World) (i : InstanceId) : World :=
  match (w.script? i).bind Script.beginCycle, w.memory.instances.find? i with
  | some c, some r =>
    { w with memory.instances := w.memory.instances.replace (r.beginSync c w.now) }
  | _, _ => w

/-- The session of an instance. -/
def session (w : World) (i : InstanceId) : Except TransportError Session :=
  match w.script? i with
  | some s =>
    if s.missing then .error (.other ("no session for " ++ i.text))
    else .ok ⟨i, !s.loggedOut⟩
  | none => .error (.other ("no session for " ++ i.text))

/-- A look at a session: whether it is ready, and the world afterwards. -/
def look (w : World) (i : InstanceId) : Bool × World :=
  match w.script? i with
  | some s =>
    match s.unreadyLooks with
    | looks + 1 => (false, w.setScript i { s with unreadyLooks := looks })
    | 0 => (s.readyAt ≤ w.clock, w)
  | none => (true, w)

/-- What comes of a transmission, how long it takes, and the world afterwards. -/
def transmission (w : World) (i : InstanceId) : Except TransportError Unit × Nat × World :=
  match w.script? i with
  | none => (.ok (), 0, w)
  | some s =>
    match s.transmissions with
    | [] => (.ok (), s.transmissionDelay, w)
    | e :: es =>
      (match e with
        | some e => .error e
        | none => .ok (),
        s.transmissionDelay, w.setScript i { s with transmissions := es })

/-! ## Faults and the log -/

/-- The site of a call. A taker that tries again is still in the call that it began with. -/
def site? : Call → Option Site
  | .findMessage _ => some .findMessage
  | .createMessage _ => some .createMessage
  | .updateMessage _ => some .updateMessage
  | .pendingMessages _ => some .pendingMessages
  | .messagesOf _ => some .messagesOf
  | .findInstance _ => some .findInstance
  | .updateInstance _ => some .updateInstance
  | .finishCycle .. => some .finishCycle
  | .createPayload _ => some .createPayload
  | .pendingPayloads _ none => some .payloadsOfInstance
  | .pendingPayloads _ (some _) => some .payloadsOfCycle
  | .markPayload .. => some .markPayload
  | .purgePayloads _ => some .purgePayloads
  | .enqueue _ => some .enqueue
  | .passQueue false => some .dequeue
  | _ => none

/-- The answer of a call that fails, if it can fail so. -/
def refusal? : (c : Call) → Trouble → Option c.Answer
  | .findMessage _, .store e => some (.error e)
  | .createMessage _, .store e => some (.error e)
  | .updateMessage _, .store e => some (.error e)
  | .pendingMessages _, .store e => some (.error e)
  | .messagesOf _, .store e => some (.error e)
  | .findInstance _, .store e => some (.error e)
  | .updateInstance _, .store e => some (.error e)
  | .finishCycle .., .store e => some (.error e)
  | .createPayload _, .store e => some (.error e)
  | .pendingPayloads .., .store e => some (.error e)
  | .markPayload .., .store e => some (.error e)
  | .purgePayloads _, .store e => some (.error e)
  | .enqueue _, .queue e => some (.error e)
  | .passQueue _, .queue e => some (.refused e)
  | _, _ => none

/-- The answer of a call that fails, if it meets a fault, and the world afterwards. -/
def meetFault (w : World) (c : Call) : Option c.Answer × World :=
  match site? c with
  | none => (none, w)
  | some site =>
    let (met, faults) := takeFault site w.faults
    (met.bind (refusal? c), { w with faults })

/-- The log tells of the call. -/
def isNoted (w : World) : Call → Bool
  | .openSession _ | .sessionReady _ | .showPresence _ | .probe .. | .upload .. | .transmit ..
  | .createMessage _ | .updateMessage _ | .pendingMessages _ | .updateInstance _
  | .finishCycle .. | .pendingPayloads .. | .markPayload .. | .enqueue _ => true
  | .processPayload _ => w.picky
  | _ => false

/-- The world with the call in its log, if the log tells of it. -/
def note (w : World) (c : Call) : World :=
  if w.isNoted c then
    let ready := match c with
      | .sessionReady i => some (w.look i).1
      | _ => none
    { w with log := ⟨w.clock, c, ready⟩ :: w.log }
  else w

/-! ## Tasks -/

/-- The program of a task, from where it stands. -/
def task (w : World) (a : Activity) : Program Finish := do
  match ← a.round w.config with
  | none => return .over
  | some a => return .next a

/-- The world with one more task. -/
def background (w : World) (p : Program Finish) : TaskId × World :=
  (w.spawned,
    { w with spawned := w.spawned + 1, threads := w.threads ++ [⟨w.spawned, .ready p⟩] })

/-- The task is over. -/
def isOver (w : World) (id : TaskId) : Bool :=
  !(w.running.any fun r => r.1 == id) && !(w.threads.any fun t => t.id == id)

/-! ## Calls -/

/-- Why a pause has ended, if it has. -/
def wake? (w : World) (deadline : Option Nat) (stops : List Token) (listening : Bool) :
    Option Wake :=
  if w.memory.tokens.anyFired stops then some .stopped
  else if listening && w.memory.queue.isReady then some .notified
  else if deadline.any (· ≤ w.clock) then some .elapsed
  else none

/-- The processing of a payload. -/
def process (w : World) (p : SyncPayload) : Except SyncError Unit :=
  if !w.picky then acknowledge p
  else if p.payload.contains '!'.toUInt8 then .error (.processor "not accepted")
  else .ok ()

/-- What comes of a call that meets no fault. -/
def serve (w : World) : (c : Call) → Reply c.Answer × World
  | .openSession i => (.now ((w.superseded i).session i), w.superseded i)
  | .sessionReady i => (.now (w.look i).1, (w.look i).2)
  | .showPresence i =>
    let s := (w.script? i).getD {}
    (.later (w.clock + s.presenceDelay)
      (match s.presenceFailure with
        | some e => .error e
        | none => .ok ()), w)
  | .probe i numbers => (.now (((w.script? i).getD {}).existence numbers), w)
  | .upload i data _ => (.now (((w.script? i).getD {}).upload data), w)
  | .transmit i _ _ =>
    let (result, delay, w) := w.transmission i
    (.later (w.clock + delay) result, w)
  | .processPayload p => (.now (w.process p), w)
  | .now => (.now w.now, w)
  | .elapsed => (.now w.clock, w)
  | .pause deadline stops listening => (.paused deadline stops listening id, w)
  | .newMessageId => (.now w.messageNames.draw.1, { w with messageNames := w.messageNames.draw.2 })
  | .newCycleId => (.now w.cycleNames.draw.1, { w with cycleNames := w.cycleNames.draw.2 })
  | .newPayloadId => (.now w.payloadNames.draw.1, { w with payloadNames := w.payloadNames.draw.2 })
  | .randomWords count => (.now (List.replicate count 0), w)
  | .spawn a =>
    let (id, w) := w.background (w.task a)
    (.now id, w)
  | c =>
    match w.memory.answer? c with
    | some (a, memory) => (.now a, { w with memory })
    | none => (.never, w)

/-- What comes of a call. -/
def answer (w : World) (c : Call) : Reply c.Answer × World :=
  match (w.note c).meetFault c with
  | (some refusal, w) => (.now refusal, w)
  | (none, w) => w.serve c

/-- A program run until it is done or has to wait. -/
def advance {α : Type} : Program α → World → (α ⊕ Blocked α) × World
  | .done a, w => (.inl a, w)
  | .ask c next, w =>
    match w.answer c with
    | (.now a, w) => advance (next a) w
    | (.later time a, w) =>
      if time ≤ w.clock then advance (next a) w else (.inr (.later time (next a)), w)
    | (.paused deadline stops listening f, w) =>
      match w.wake? deadline stops listening with
      | some k => advance (next (f k)) w
      | none => (.inr (.paused deadline stops listening fun k => next (f k)), w)
    | (.never, w) => (.inr .stuck, w)

end World

end MessageGateway.Simulation
