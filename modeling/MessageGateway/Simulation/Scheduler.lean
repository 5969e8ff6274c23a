import MessageGateway.Simulation.World

/-!
# The scheduler of a simulation

One program, the caller, runs together with the tasks of a world. A program that runs is left alone
until it has to wait. The caller comes first whenever it can go on, then the task that has waited
longest. Time stands still as long as anything can run; then it jumps to the next moment for which
anything waits.

## Main definitions

* `Blocked.resume? w b`: how a program that has stopped goes on, if it can
* `World.turn? w`: one turn of one task
* `World.settle`, `World.drive`: turns until nothing can run, or until the caller is done
* `World.perform p`: the caller's program `p`, from start to end
-/

namespace MessageGateway.Simulation

/-- How a program that has stopped goes on, if it can. -/
def Blocked.resume? {α : Type} (w : World) : Blocked α → Option (Program α)
  | .ready p => some p
  | .later time p => if time ≤ w.clock then some p else none
  | .paused deadline stops listening next => (w.wake? deadline stops listening).map next
  | .joining tasks deadline next =>
    if tasks.all w.isOver then some (next true)
    else if deadline.any (· ≤ w.clock) then some (next false)
    else none
  | .stuck => none

/-- The time at which the program goes on even if nothing else happens. -/
def Blocked.deadline? {α : Type} : Blocked α → Option Nat
  | .ready _ | .stuck => none
  | .later time _ => some time
  | .paused deadline .. => deadline
  | .joining _ deadline _ => deadline

namespace World

/-- The world after the run of a task from one place to the next. -/
def runTask (w : World) (id : TaskId) (p : Program Finish) : World :=
  match advance p w with
  | (.inr rest, w) => { w with threads := w.threads ++ [⟨id, rest⟩] }
  | (.inl .over, w) => w
  | (.inl (.next a), w) => { w with running := some (id, a) }
  | (.inl (.change f), w) => { w with memory := f w.memory }
  | (.inl (.sent name result), w) => { w with results := w.results ++ [(name, result)] }

/-- The first of the tasks that can go on, how it does, and the others. -/
def firstReady? (w : World) : List Thread → Option (TaskId × Program Finish × List Thread)
  | [] => none
  | t :: ts =>
    match t.rest.resume? w with
    | some p => some (t.id, p, ts)
    | none => (w.firstReady? ts).map fun (id, p, rest) => (id, p, t :: rest)

/-- The world after the turn of one task, if one can go on. -/
def turn? (w : World) : Option World :=
  match w.running with
  | some (id, a) => some ({ w with running := none }.runTask id (w.task a))
  | none =>
    (w.firstReady? w.threads).map fun (id, p, threads) => { w with threads }.runTask id p

/-- More turns than a simulation ever takes. -/
def turnLimit : Nat := 1000000000000

/-- The world after at most `turns` turns of tasks, without moving the time. -/
def settleWithin : (turns : Nat) → World → World
  | 0, w => w
  | turns + 1, w =>
    match w.turn? with
    | some w => settleWithin turns w
    | none => w

/-- The world once all its tasks have to wait. -/
def settle (w : World) : World :=
  settleWithin turnLimit w

/-- The next moment for which a task or the caller waits. -/
def nextDeadline? {α : Type} (w : World) (caller : Blocked α) : Option Nat :=
  (caller.deadline?.toList ++ w.threads.filterMap fun t => t.rest.deadline?).min?

/-- The caller run within `turns` turns: its result, unless it never ends. -/
def drive {α : Type} : (turns : Nat) → Blocked α → World → Option α × World
  | 0, _, w => (none, w)
  | turns + 1, caller, w =>
    match w.running, caller.resume? w with
    | none, some p =>
      match advance p w with
      | (.inl a, w) => (some a, w)
      | (.inr caller, w) => drive turns caller w
    | _, _ =>
      match w.turn? with
      | some w => drive turns caller w
      | none =>
        match w.nextDeadline? caller with
        | some time => drive turns caller { w with clock := max w.clock time }
        | none => (none, w)

/-- The result of the caller's program, and the world when it is done. -/
def perform {α : Type} (p : Program α) (w : World) : Option α × World :=
  drive turnLimit (.ready p) w

/-- The world once so many milliseconds have passed. -/
def pass (w : World) (ms : Nat) : World :=
  (w.perform (Program.sleepUntil (w.clock + ms))).2

/-- Waits until the tasks are over or so many milliseconds have passed, if there is a limit; the
answer is whether they are over. -/
def join (w : World) (tasks : List TaskId) (limit : Option Nat) : Option Bool × World :=
  drive turnLimit (.joining tasks (limit.map (w.clock + ·)) .done) w

end World

end MessageGateway.Simulation
