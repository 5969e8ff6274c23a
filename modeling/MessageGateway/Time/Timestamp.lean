/-!
# Points in time

A point in time counts seconds since the start of 1970 in UTC, and nanoseconds within the second.
A leap second is written as the second before it with nanoseconds from one milliard on, so the
order of times is the order of the pairs.

## Main definitions

* `Timestamp`: a point in time
* `Timestamp.ofMillis`, `Timestamp.toMillis`: times counted in milliseconds
* `Timestamp.precedes`: the order of times
-/

namespace MessageGateway

/-- A point in time in UTC. -/
structure Timestamp where
  /-- Whole seconds since the start of 1970, rounded down. -/
  seconds : Int
  /-- Nanoseconds in the second; from one milliard on they lie in a leap second. -/
  nanos : Nat
  deriving DecidableEq, Repr

namespace Timestamp

/-- The time so many milliseconds after the start of 1970. -/
def ofMillis (ms : Int) : Timestamp :=
  ⟨ms / 1000, (ms % 1000).toNat * 1000000⟩

/-- Milliseconds since the start of 1970, rounded down. -/
def toMillis (t : Timestamp) : Int :=
  t.seconds * 1000 + t.nanos / 1000000

/-- The order of times: by second, then within the second. -/
def precedes (a b : Timestamp) : Bool :=
  a.seconds < b.seconds || (a.seconds == b.seconds && a.nanos < b.nanos)

@[simp] theorem toMillis_ofMillis (ms : Int) : (ofMillis ms).toMillis = ms := by
  simp only [toMillis, ofMillis]
  omega

end Timestamp

end MessageGateway
