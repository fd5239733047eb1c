import PhysicsLab.Number.Decimal

/-!
# Instants

The time of a simulation in whole nanoseconds from its start, so that steps add up exactly.
Instants are counts: they stop at the largest count and at zero.
-/

namespace PhysicsLab

open PhysicsLab.Number

/-- A time in nanoseconds from the start. -/
structure Instant where
  nanos : Nat
  deriving DecidableEq, Inhabited

namespace Instant

/-- The start. -/
def start : Instant := ⟨0⟩

/-- The instant nearest to a number of seconds; the start for what is negative or not finite. -/
def ofSeconds (seconds : Float) : Instant :=
  if seconds.isFinite && seconds > 0.0 then ⟨toCount (seconds * 1000000000.0)⟩ else start

/-- The seconds of a number of nanoseconds. -/
def secondsOf (nanos : Nat) : Float := Float.ofNat nanos / 1000000000.0

/-- The seconds from the start. -/
def seconds (t : Instant) : Float := secondsOf t.nanos

/-- The instant a number of nanoseconds later. -/
def add (t : Instant) (nanos : Nat) : Instant := ⟨clampCount (t.nanos + nanos)⟩

/-- The nanoseconds from one instant to another that is not earlier. -/
def gapTo (t u : Instant) : Nat := u.nanos - t.nanos

/-- The text of an instant. -/
def text (t : Instant) : String := writeFixed 9 t.seconds ++ "s"

end Instant

end PhysicsLab
