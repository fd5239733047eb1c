import PhysicsLab.Failure
import PhysicsLab.Number.Arithmetic
import PhysicsLab.Simulation.Instant

/-!
# Clocks

A clock keeps the time of a simulation and controls its step.  After an accepted step the nominal
step shrinks if the error was more than twice the tolerance, grows if it was less than half of it,
and stays otherwise; it does not leave the range from the floor to the ceiling.  A rejected attempt
halves the nominal step.  A halved step below the floor ends the simulation.

With a fixed step the ceiling is the step itself, so that it never grows, and the floor is at most
the step, so that it can still be halved.

## Main definitions

* `Clock.ofSettings`
* `Clock.nextStep` — the size of the next attempt
* `Clock.accept`, `Clock.reject`
-/

namespace PhysicsLab

open PhysicsLab.Number

/-- The time and the step of a simulation; steps are in nanoseconds. -/
structure Clock where
  now : Instant
  /-- The nominal step. -/
  step : Nat
  floor : Nat
  ceiling : Nat
  adaptive : Bool
  tolerance : Float
  shrinkFactor : Float
  growthFactor : Float
  accepted : Nat
  failed : Nat
  /-- The smallest and the largest full step taken. -/
  observed : Option (Nat × Nat)
  deriving DecidableEq

/-- What became of the nominal step. -/
inductive StepChange where
  | shrunk
  | grown
  | unchanged
  deriving DecidableEq

namespace Clock

/-- A step of a number of seconds, of one nanosecond at least. -/
def stepOf (seconds : Float) : Nat := max 1 (Instant.ofSeconds seconds).nanos

/-- A multiple of a step, of one nanosecond at least. -/
def scaleStep (step : Nat) (factor : Float) : Nat := max 1 (toCount (Float.ofNat step * factor))

/-- The smallest step that a simulation may take. -/
def floorOf (s : SimulationSettings) : Nat :=
  if s.adaptive then stepOf s.minTimeStep else min (stepOf s.minTimeStep) (stepOf s.timeStep)

/-- The largest step that a simulation may take. -/
def ceilingOf (s : SimulationSettings) : Nat :=
  if s.adaptive then max (stepOf s.maxTimeStep) (stepOf s.minTimeStep) else stepOf s.timeStep

/-- The clock at the start of a simulation. -/
def ofSettings (s : SimulationSettings) : Clock :=
  { now := .start
    step := max (floorOf s) (min (stepOf s.timeStep) (ceilingOf s))
    floor := floorOf s
    ceiling := ceilingOf s
    adaptive := s.adaptive
    tolerance := s.tolerance
    shrinkFactor := s.shrinkFactor
    growthFactor := s.growthFactor
    accepted := 0
    failed := 0
    observed := none }

/-- The size of the next attempt: the nominal step, or what is left until the end. -/
def nextStep (c : Clock) (finish : Instant) : Nat := min c.step (c.now.gapTo finish)

/-- The attempts so far. -/
def attempts (c : Clock) : Nat := c.accepted + c.failed

/-- The part of the attempts that were accepted. -/
def successRatio (c : Clock) : Float := ratio c.accepted c.attempts

/-- A range of steps with one more. -/
def widen (range : Option (Nat × Nat)) (step : Nat) : Nat × Nat :=
  match range with
  | some (low, high) => (min low step, max high step)
  | none => (step, step)

/-- The clock after a step; a step other than the nominal one is not observed. -/
def advance (c : Clock) (taken : Nat) : Clock :=
  { c with
    now := c.now.add taken
    accepted := c.accepted + 1
    observed := if taken = c.step then some (widen c.observed taken) else c.observed }

/-- The nominal step after a step with some error, and what became of it. -/
def adapt (c : Clock) (error : Float) : Nat × StepChange :=
  -- A fixed step stays, and so does any step after an error that says nothing.
  if !c.adaptive || !error.isFinite then (c.step, .unchanged)
  else if error > 2.0 * c.tolerance && c.floor < c.step then
    (max (scaleStep c.step c.shrinkFactor) c.floor, .shrunk)
  else if error < 0.5 * c.tolerance && c.step < c.ceiling then
    (min (scaleStep c.step c.growthFactor) c.ceiling, .grown)
  else (c.step, .unchanged)

/-- The clock after a step with some error. -/
def accept (c : Clock) (taken : Nat) (error : Float) : Clock :=
  { c.advance taken with step := (c.adapt error).1 }

/-- The clock after a failed attempt that is not tried again. -/
def fail (c : Clock) : Clock := { c with failed := c.failed + 1 }

/-- The clock after a failed attempt: the step is halved, unless that takes it below the floor. -/
def reject (c : Clock) : Except Failure Clock :=
  let halved := c.step / 2
  -- The floor is at least one nanosecond, so that a step cannot vanish.
  if halved < c.floor then .error (.stepCollapse c.now.seconds (Instant.secondsOf halved))
  else .ok { c.fail with step := halved }

end Clock

end PhysicsLab
