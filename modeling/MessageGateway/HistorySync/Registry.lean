import MessageGateway.Identifier
import MessageGateway.Store.Table

/-!
# Cancellation and the registry of cycles

A task watches a token and stops when it has been fired; tokens are fired once and for all. The
registry holds, for each instance, the handle of the cycle that runs on it.

## Main definitions

* `Token`, `TokenBox`: tokens, and which have been fired
* `CycleHandle`: a running cycle and the token that stops it
* `CycleRegistry`: the handle of each instance

## Main results

* `TokenBox.isFired_fire`: what has been fired after one more token
* `CycleRegistry.acquire_mount`, `CycleRegistry.acquire_remove`: the handles after a change
-/

namespace MessageGateway

/-- Something that a task watches and stops for. -/
structure Token where
  /-- The place of the token among all tokens. -/
  number : Nat
  deriving DecidableEq, Repr

/-- The tokens so far. -/
structure TokenBox where
  /-- How many there are. -/
  issued : Nat := 0
  /-- Those that have been fired. -/
  fired : List Token := []

namespace TokenBox

/-- A new token. -/
def issue (b : TokenBox) : Token × TokenBox :=
  (⟨b.issued⟩, { b with issued := b.issued + 1 })

/-- The tokens once `t` has been fired. -/
def fire (b : TokenBox) (t : Token) : TokenBox :=
  if t ∈ b.fired then b else { b with fired := t :: b.fired }

/-- The token has been fired. -/
def isFired (b : TokenBox) (t : Token) : Bool :=
  t ∈ b.fired

/-- One of the tokens has been fired. -/
def anyFired (b : TokenBox) (ts : List Token) : Bool :=
  ts.any b.isFired

theorem isFired_fire (b : TokenBox) (t u : Token) :
    (b.fire t).isFired u = (b.isFired u || decide (u = t)) := by
  unfold isFired fire
  by_cases there : t ∈ b.fired
  · by_cases same : u = t <;> simp_all
  · by_cases same : u = t <;> simp_all

end TokenBox

/-- A running cycle and the token that stops it. -/
structure CycleHandle where
  /-- The cycle. -/
  cycle : CycleId
  /-- What its task watches. -/
  token : Token
  deriving DecidableEq, Repr

/-- The instances, each with the handle of the cycle that runs on it. -/
abbrev CycleRegistry := Table (Prod.fst : InstanceId × CycleHandle → InstanceId)

namespace CycleRegistry

/-- The handle of an instance. -/
def acquire (r : CycleRegistry) (i : InstanceId) : Option CycleHandle :=
  (r.find? i).map (·.2)

/-- The handle that the new one displaces, and the registry with the new one. -/
def mount (r : CycleRegistry) (i : InstanceId) (h : CycleHandle) :
    Option CycleHandle × CycleRegistry :=
  (r.acquire i, r.put (i, h))

/-- The handle of an instance, and the registry without it. -/
def remove (r : CycleRegistry) (i : InstanceId) : Option CycleHandle × CycleRegistry :=
  (r.acquire i, r.erase i)

/-- The same, but only when the handle is that of the cycle `c`. -/
def removeCycle (r : CycleRegistry) (i : InstanceId) (c : CycleId) :
    Option CycleHandle × CycleRegistry :=
  if (r.acquire i).map CycleHandle.cycle = some c then r.remove i else (none, r)

variable (r : CycleRegistry) (i j : InstanceId)

theorem acquire_mount (h : CycleHandle) :
    (r.mount i h).2.acquire j = if j = i then some h else r.acquire j := by
  rw [mount, acquire, acquire, Table.find?_put]
  split <;> rfl

theorem acquire_remove : (r.remove i).2.acquire j = if j = i then none else r.acquire j := by
  rw [remove, acquire, acquire, Table.find?_erase]
  split <;> rfl

/-- A handle is removed for its cycle only when there is one. -/
theorem acquire_removeCycle (c : CycleId) : (r.removeCycle i c).2.acquire j =
    if (r.removeCycle i c).1.isSome ∧ j = i then none else r.acquire j := by
  unfold removeCycle
  split
  · next held =>
    have some : (r.acquire i).isSome = true := by
      obtain ⟨h, acquired, -⟩ := Option.map_eq_some_iff.1 held
      rw [acquired]
      rfl
    rw [acquire_remove]
    simp [remove, some]
  · simp

end CycleRegistry

end MessageGateway
