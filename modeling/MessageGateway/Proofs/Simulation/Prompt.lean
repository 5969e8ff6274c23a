import MessageGateway.Proofs.HistorySync.Alone
import MessageGateway.Simulation.Scheduler

/-!
# Programs that wait, and programs that never do

A program that pauses has to wait unless its pause is over at once. Most other calls are answered by
a world at once. A program of such calls runs through in one go, and it comes to the same in the
world as alone on the memory of the world.

## Main definitions

* `Call.isPrompt`: the calls that a world answers at once
* `Simulation.World.beyond`: what a world answers to the calls that its memory does not
* `Simulation.waiter`: a caller that waits until a time

## Main results

* `Simulation.World.advance_pause`: a program that pauses goes on at once, or it stops there
* `Simulation.World.advance_of_yields`: a program of prompt calls comes to the same as alone
* `Simulation.World.firstReady?_cases`: the task whose turn it is, if there is one
* `Simulation.World.drive_ready`, `Simulation.World.drive_sleepUntil`: a caller that does not wait,
  and one that does nothing else
-/

namespace MessageGateway

open Program

namespace Call

/-- A world answers the call at once, out of its memory or by a clock, a name or a task. -/
def isPrompt : Call → Bool
  | .openSession _ | .sessionReady _ | .showPresence _ | .probe .. | .upload .. | .transmit ..
  | .processPayload _ | .pause .. | .newMessageId | .newPayloadId | .randomWords _ => false
  | _ => true

/-- The call is of a clock, of the names of cycles or of the tasks. -/
def isBeyond : Call → Bool
  | .now | .elapsed | .newCycleId | .spawn _ => true
  | _ => false

theorem isSome_answer? {c : Call} (prompt : c.isPrompt = true) (inside : c.isBeyond = false)
    (m : Memory) : (m.answer? c).isSome = true := by
  cases c with
  | finishCycle i k status time =>
    simp only [Memory.answer?]
    split <;> rfl
  | enqueue e =>
    simp only [Memory.answer?]
    split <;> rfl
  | now | elapsed | newCycleId | spawn => simp [isBeyond] at inside
  | _ => first | rfl | cases prompt

end Call

namespace Simulation

namespace World

variable {α : Type} {v w w' : World} {c : Call} {m m' : Memory}

/-- A program that pauses goes on at once, or it stops there. -/
theorem advance_pause (w : World) (deadline : Option Nat) (stops : List Token) (listening : Bool)
    (next : Wake → Program α) : advance (.ask (.pause deadline stops listening) next) w =
      match w.wake? deadline stops listening with
      | some wake => advance (next wake) w
      | none => (.inr (.paused deadline stops listening next), w) := by
  have answered : w.answer (.pause deadline stops listening) =
      (.paused deadline stops listening id, w) := rfl
  rw [advance.eq_def]
  cases woken : w.wake? deadline stops listening with
  | some wake => simp only [answered, id, woken]
  | none => simp only [answered, id, woken]

/-! ## Prompt programs -/

/-- What a world answers to the prompt calls that its memory does not answer. -/
def beyond : (c : Call) → World → c.Answer × World
  | .now, w => (w.now, w)
  | .elapsed, w => (w.clock, w)
  | .newCycleId, w => (w.cycleNames.draw.1, { w with cycleNames := w.cycleNames.draw.2 })
  | .spawn a, w => w.background (w.task a)
  | c, w => (c.unanswered, w)

theorem faults_beyond (c : Call) (w : World) : (beyond c w).2.faults = w.faults := by
  cases c <;> rfl

theorem note_eq (w : World) (c : Call) : ∃ log, w.note c = { w with log } := by
  unfold note
  split
  · exact ⟨_, rfl⟩
  · exact ⟨w.log, rfl⟩

/-- Without faults, no call meets one. -/
theorem meetFault_of_nil (faults : w.faults = []) (c : Call) : w.meetFault c = (none, w) := by
  unfold meetFault
  split
  · rfl
  · next site _ =>
    have same : { w with faults := [] } = w := by
      cases w
      cases faults
      rfl
    rw [faults]
    simp only [takeFault, Option.bind_none, same]

theorem serve_of_answer? {a : c.Answer} (h : w.memory.answer? c = some (a, m)) :
    w.serve c = (.now a, { w with memory := m }) := by
  cases c <;> first | (simp only [serve, h]; done) | cases h

/-- **A prompt call** is answered as it is alone on the memory. -/
theorem answer_of_isPrompt (faults : v.faults = []) (prompt : c.isPrompt = true) (m : Memory)
    (log : List Entry) (calls : List Exchange) :
    ∃ log', answer { v with memory := m, log } c =
      (.now (Solo.answer beyond c ⟨m, v, calls⟩).1,
        { (Solo.answer beyond c ⟨m, v, calls⟩).2.world with
          memory := (Solo.answer beyond c ⟨m, v, calls⟩).2.memory
          log := log' }) := by
  obtain ⟨log', noted⟩ := note_eq { v with memory := m, log } c
  refine ⟨log', ?_⟩
  unfold answer
  rw [noted, meetFault_of_nil (w := { v with memory := m, log := log' }) faults]
  dsimp only
  cases inside : c.isBeyond with
  | true => cases c <;> first | rfl | cases inside
  | false =>
    obtain ⟨⟨a, m'⟩, answered⟩ := Option.isSome_iff_exists.1 (Call.isSome_answer? prompt inside m)
    rw [serve_of_answer? (w := { v with memory := m, log := log' }) answered]
    simp only [Solo.answer, answered]

theorem faults_answer (c : Call) (s : Solo World) :
    (Solo.answer beyond c s).2.world.faults = s.world.faults := by
  unfold Solo.answer
  split
  · rfl
  · exact faults_beyond c s.world

/-- **A program of prompt calls** comes to the same in a world as alone on its memory. -/
theorem advance_of_only {p : Program α} (only : p.Only fun c => c.isPrompt = true)
    (faults : v.faults = []) (m : Memory) (log : List Entry) (calls : List Exchange) :
    ∃ log', advance p { v with memory := m, log } =
      (.inl (p.run (Solo.answer beyond) ⟨m, v, calls⟩).1,
        { (p.run (Solo.answer beyond) ⟨m, v, calls⟩).2.world with
          memory := (p.run (Solo.answer beyond) ⟨m, v, calls⟩).2.memory
          log := log' }) := by
  induction p generalizing v m log calls with
  | done a => exact ⟨log, rfl⟩
  | ask c next ih =>
    obtain ⟨prompt, rest⟩ := only
    obtain ⟨log', answered⟩ := answer_of_isPrompt faults prompt m log calls
    have faults' := (faults_answer c ⟨m, v, calls⟩).trans faults
    obtain ⟨log'', goes⟩ := ih _ (rest _) faults' _ log' (Solo.answer beyond c ⟨m, v, calls⟩).2.log
    refine ⟨log'', ?_⟩
    unfold advance
    rw [answered, run_ask]
    exact goes

theorem advance_of_yields {p : Program α} {a : α} (only : p.Only fun c => c.isPrompt = true)
    (faults : w.faults = []) (h : Yields beyond p w.memory w a m' w') :
    ∃ log, advance p w = (.inl a, { w' with memory := m', log }) := by
  obtain ⟨calls, run⟩ := h []
  obtain ⟨log, goes⟩ := advance_of_only only faults w.memory w.log []
  rw [run] at goes
  exact ⟨log, goes⟩

/-! ## Turns -/

/-- The first thread that can go on, if there is one. -/
theorem firstReady?_cases (w : World) (l : List Thread) :
    (w.firstReady? l = none ∧ ∀ t ∈ l, t.rest.resume? w = none) ∨
      ∃ pre t post p, l = pre ++ t :: post ∧ t.rest.resume? w = some p ∧
        w.firstReady? l = some (t.id, p, pre ++ post) := by
  induction l with
  | nil => exact .inl ⟨rfl, List.forall_mem_nil _⟩
  | cons t l ih =>
    unfold firstReady?
    cases ready : t.rest.resume? w with
    | some p => exact .inr ⟨[], t, l, p, rfl, ready, rfl⟩
    | none =>
      rcases ih with ⟨no, rest⟩ | ⟨pre, u, post, p, rfl, goes, yes⟩
      · rw [no]
        exact .inl ⟨rfl, List.forall_mem_cons.2 ⟨ready, rest⟩⟩
      · rw [yes]
        exact .inr ⟨t :: pre, u, post, p, rfl, goes, rfl⟩

theorem runTask_over {p : Program Finish} (id : TaskId) (ends : advance p w = (.inl .over, w')) :
    w.runTask id p = w' := by
  simp only [runTask, ends]

/-! ## Callers -/

/-- A caller that does not wait. -/
theorem drive_ready {turns : Nat} {p : Program α} {a : α} (running : w.running = none)
    (goes : advance p w = (.inl a, w')) : drive (turns + 1) (.ready p) w = (some a, w') := by
  simp only [drive, running, Blocked.resume?, goes]

end World

/-- A caller that waits until the time `time`. -/
def waiter (time : Nat) : Blocked Unit :=
  .paused (some time) [] false fun _ => .done ()

theorem resume?_waiter (w : World) (time : Nat) :
    (waiter time).resume? w = if time ≤ w.clock then some (.done ()) else none := by
  unfold waiter Blocked.resume?
  simp only [World.wake?, TokenBox.anyFired, List.any_nil, Bool.false_eq_true, if_false,
    Bool.false_and, Option.any_some, decide_eq_true_eq]
  split <;> rfl

/-- A caller that sleeps has to wait, unless the time has come. -/
theorem World.drive_sleepUntil {w : World} {turns time : Nat} (running : w.running = none) :
    drive (turns + 1) (.ready (sleepUntil time)) w =
      if time ≤ w.clock then (some (), w) else drive turns (waiter time) w := by
  have pauses : advance (sleepUntil time) w =
      match w.wake? (some time) [] false with
      | some _ => (.inl (), w)
      | none => (.inr (waiter time), w) := advance_pause w _ _ _ fun _ => .done ()
  have wake : w.wake? (some time) [] false = if time ≤ w.clock then some .elapsed else none := by
    simp [wake?, TokenBox.anyFired]
  by_cases come : time ≤ w.clock
  · rw [wake, if_pos come] at pauses
    simp only [drive, running, Blocked.resume?, pauses, if_pos come]
  · rw [wake, if_neg come] at pauses
    simp only [drive, running, Blocked.resume?, pauses, if_neg come]

end Simulation

end MessageGateway
