import MessageGateway.Call

/-!
# Programs

An operation of the gateway is a program: a finite tree that either is done with a result, or makes
a call and goes on with the answer. What a program is run against, whether other programs run in
between, and how far it gets, is not part of it.

## Main definitions

* `Program α`: an operation with results in `α`
* `Program.request c`: the program that makes the call `c` and is done with the answer
* `Program.run`: a program run alone against something that answers every call

One function for each call gives the program that makes it.
-/

namespace MessageGateway

/-- An operation with results in `α`. -/
inductive Program (α : Type) where
  /-- The result. -/
  | done (a : α)
  /-- A call, and how to go on with its answer. -/
  | ask (c : Call) (next : c.Answer → Program α)

namespace Program

variable {α β : Type}

/-- The program that goes on with `f` when `p` is done. -/
def bind (p : Program α) (f : α → Program β) : Program β :=
  match p with
  | done a => f a
  | ask c next => ask c fun x => (next x).bind f

instance : Monad Program where
  pure := done
  bind := bind

@[simp] theorem ask_bind (c : Call) (next : c.Answer → Program α) (f : α → Program β) :
    (ask c next >>= f) = ask c fun x => next x >>= f := rfl

theorem bind_done (p : Program α) : (p >>= done) = p := by
  induction p with
  | done a => rfl
  | ask c next ih => simp only [ask_bind, ih]

theorem bind_bind {γ : Type} (p : Program α) (f : α → Program β) (g : β → Program γ) :
    (p >>= f >>= g) = (p >>= fun a => f a >>= g) := by
  induction p with
  | done a => rfl
  | ask c next ih => simp only [ask_bind, ih]

instance : LawfulMonad Program :=
  LawfulMonad.mk' Program bind_done (fun _ _ => rfl) bind_bind

/-- The program that makes the call and is done with the answer. -/
def request (c : Call) : Program c.Answer :=
  ask c done

/-- The result of a program run alone, with the state it leaves. -/
def run {σ : Type} (answer : (c : Call) → σ → c.Answer × σ) : Program α → σ → α × σ
  | done a, s => (a, s)
  | ask c next, s =>
    let (x, s) := answer c s
    run answer (next x) s

/-- The result if it is one, and nothing when it is an error: the program of which only the
effects count. -/
def bestEffort {ε : Type} (p : Program (Except ε α)) : Program (Option α) := do
  return (← p).toOption

/-- The program whose errors are changed by `f`. -/
def orFail {ε ε' : Type} (f : ε → ε') (p : Program (Except ε α)) : ExceptT ε' Program α :=
  ExceptT.mk do return (← p).mapError f

/-! ## The calls -/

/-- The message record of this name. -/
def findMessage (id : MessageId) : Program (Except StoreError (Option Message)) :=
  request (.findMessage id)

/-- A new message record. -/
def createMessage (m : Message) : Program (Except StoreError Message) :=
  request (.createMessage m)

/-- A message record in the place of that of its name. -/
def updateMessage (m : Message) : Program (Except StoreError Unit) :=
  request (.updateMessage m)

/-- The message records whose delivery is not over. -/
def pendingMessages (limit : Nat) : Program (Except StoreError (List Message)) :=
  request (.pendingMessages limit)

/-- The message records of an instance. -/
def messagesOf (i : InstanceId) : Program (Except StoreError (List Message)) :=
  request (.messagesOf i)

/-- The record of an instance. -/
def findInstance (i : InstanceId) : Program (Except StoreError Instance) :=
  request (.findInstance i)

/-- An instance record in the place of that of its name. -/
def updateInstance (r : Instance) : Program (Except StoreError Instance) :=
  request (.updateInstance r)

/-- The end of a cycle, if it is still the stored one. -/
def finishCycle (i : InstanceId) (c : CycleId) (status : SyncStatus) (now : Timestamp) :
    Program (Except StoreError (Option Instance)) :=
  request (.finishCycle i c status now)

/-- A new payload. -/
def createPayload (p : SyncPayload) : Program (Except StoreError SyncPayload) :=
  request (.createPayload p)

/-- The unprocessed payloads of an instance, or of one of its cycles. -/
def pendingPayloads (i : InstanceId) (c : Option CycleId) :
    Program (Except StoreError (List SyncPayload)) :=
  request (.pendingPayloads i c)

/-- The status of a payload. -/
def markPayload (id : PayloadId) (status : PayloadStatus) (processed : Option Timestamp) :
    Program (Except StoreError Unit) :=
  request (.markPayload id status processed)

/-- The end of all payloads of an instance. -/
def purgePayloads (i : InstanceId) : Program (Except StoreError Unit) :=
  request (.purgePayloads i)

/-- The processing of a payload. -/
def processPayload (p : SyncPayload) : Program (Except SyncError Unit) :=
  request (.processPayload p)

/-- The session of an instance. -/
def openSession (i : InstanceId) : Program (Except TransportError Session) :=
  request (.openSession i)

/-- Whether the session of an instance can encrypt. -/
def sessionReady (i : InstanceId) : Program Bool :=
  request (.sessionReady i)

/-- The instance shows presence. -/
def showPresence (i : InstanceId) : Program (Except TransportError Unit) :=
  request (.showPresence i)

/-- Which of the numbers exist. -/
def probe (i : InstanceId) (numbers : List String) :
    Program (Except TransportError (List ExistenceResult)) :=
  request (.probe i numbers)

/-- The upload of a file. -/
def upload (i : InstanceId) (data : List UInt8) (category : MediaCategory) :
    Program (Except TransportError UploadResult) :=
  request (.upload i data category)

/-- The transmission of a message. -/
def transmit (i : InstanceId) (recipient : Address) (m : Outbound) :
    Program (Except TransportError Unit) :=
  request (.transmit i recipient m)

/-- An event at the end of the queue. -/
def enqueue (e : QueueEvent) : Program (Except QueueError Unit) :=
  request (.enqueue e)

/-- A try to take an event. -/
def passQueue (again : Bool) : Program Pass :=
  request (.passQueue again)

/-- The first event of the queue, if there is one now. -/
def popQueue : Program (Option QueueEvent) :=
  request .popQueue

/-- The handle of the cycle that runs on an instance. -/
def findHandle (i : InstanceId) : Program (Option CycleHandle) :=
  request (.findHandle i)

/-- A new handle for an instance; the answer is the one it had. -/
def mountHandle (i : InstanceId) (h : CycleHandle) : Program (Option CycleHandle) :=
  request (.mountHandle i h)

/-- The end of an instance's handle; the answer is the one it had. -/
def removeHandle (i : InstanceId) : Program (Option CycleHandle) :=
  request (.removeHandle i)

/-- The end of an instance's handle, if it is that of the cycle. -/
def removeCycle (i : InstanceId) (c : CycleId) : Program (Option CycleHandle) :=
  request (.removeCycle i c)

/-- A new token. -/
def issueToken : Program Token :=
  request .issueToken

/-- The firing of a token. -/
def fireToken (t : Token) : Program Unit :=
  request (.fireToken t)

/-- Whether one of the tokens has been fired. -/
def anyFired (ts : List Token) : Program Bool :=
  request (.anyFired ts)

/-- The time. -/
def now : Program Timestamp :=
  request .now

/-- The milliseconds since some fixed moment. -/
def elapsed : Program Nat :=
  request .elapsed

/-- A pause until a moment, until a token is fired, or until the queue may have an event. -/
def pause (deadline : Option Nat) (stops : List Token) (listening : Bool) : Program Wake :=
  request (.pause deadline stops listening)

/-- A pause until a moment that nothing else ends. -/
def sleepUntil (deadline : Nat) : Program Unit := do
  let _ ← pause (some deadline) [] false

/-- A new name for a message. -/
def newMessageId : Program MessageId :=
  request .newMessageId

/-- A new name for a cycle. -/
def newCycleId : Program CycleId :=
  request .newCycleId

/-- A new name for a payload. -/
def newPayloadId : Program PayloadId :=
  request .newPayloadId

/-- Random words. -/
def randomWords (count : Nat) : Program (List UInt64) :=
  request (.randomWords count)

/-- A new task. -/
def spawn (a : Activity) : Program TaskId :=
  request (.spawn a)

end Program

end MessageGateway
