/-!
# Instants

Times since the epoch, and what the clock of the system tells.

## Main Definitions

* `Instant`: a time at or after the epoch.
* `ClockReading`, `ClockReading.sinceEpoch?`: what a clock with signed seconds
  tells, which may lie before the epoch.
-/

namespace ConnectTokens

/-- Nanoseconds within a second. -/
abbrev Nanos := Fin 1000000000

/-- A time at or after the epoch. -/
@[ext] structure Instant where
  seconds : UInt64
  nanos : Nanos
deriving DecidableEq

/-- The time in nanoseconds since the epoch. -/
def Instant.totalNanos (t : Instant) : Nat := t.seconds.toNat * 1000000000 + t.nanos

/-- What the clock of the system tells: the nanoseconds count forward from the
second, also before the epoch. -/
@[ext] structure ClockReading where
  seconds : Int64
  nanos : Nanos
deriving DecidableEq

/-- The time since the epoch, unless the clock stands before it. -/
def ClockReading.sinceEpoch? (r : ClockReading) : Option Instant :=
  if 0 ≤ r.seconds.toInt then some ⟨UInt64.ofNat r.seconds.toInt.toNat, r.nanos⟩ else none

end ConnectTokens
