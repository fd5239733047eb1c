import PhysicsLab.Simulation.Sample

/-!
# What is seen of a step

Every accepted step is logged with its size and its energy, and looked through for events: a body
that reaches the ground, that turns from rising to falling, or that passes the origin of the first
axis. The time of a passage is interpolated within the step.

## Main definitions

* `StepView`, `StepView.events`, `StepView.logEntry`
* `energyDrift` — how far the logged energy strays from where it began
-/

namespace PhysicsLab

open PhysicsLab.Number

/-- An accepted step. -/
structure StepView where
  /-- The time at its end in seconds. -/
  time : Float
  /-- Its size in seconds. -/
  step : Float
  before : List Body
  after : List Body
  /-- The energy after it. -/
  energy : Energy

/-! ## §1 Events -/

/-- What an event is. -/
inductive EventKind where
  | groundContact
  | turningPoint
  | zeroCrossing
  deriving DecidableEq, Inhabited

instance : Labelled EventKind where
  all := [.groundContact, .turningPoint, .zeroCrossing]
  label
    | .groundContact => "ground_contact"
    | .turningPoint => "turning_point"
    | .zeroCrossing => "zero_crossing"

/-- Something that happened to a body. -/
structure Event where
  /-- In seconds. -/
  time : Float
  body : String
  kind : EventKind
  deriving DecidableEq

/-- The time within a step at which a quantity that goes from `a` to `b` is zero; the end of the
step if the quantity hardly changes. -/
def crossingTime (start step a b : Float) : Float :=
  if (a - b).abs < epsilon then start + step else start + step * a / (a - b)

/-- An event, where the condition for it holds. -/
def eventIf (condition : Bool) (time : Float) (body : String) (kind : EventKind) : List Event :=
  if condition then [⟨time, body, kind⟩] else []

namespace StepView

/-- The events of a body in a step. -/
def eventsOf (v : StepView) (b c : Body) : List Event :=
  let start := v.time - v.step
  let x := b.position.x
  let x' := c.position.x
  eventIf (b.position.y > 0.0 && c.position.y ≤ 0.0) v.time c.id .groundContact ++
  eventIf (b.velocity.y > 0.0 && c.velocity.y ≤ 0.0)
    (crossingTime start v.step b.velocity.y c.velocity.y) c.id .turningPoint ++
  eventIf ((x > 0.0 && x' ≤ 0.0) || (x < 0.0 && x' ≥ 0.0))
    (crossingTime start v.step x x') c.id .zeroCrossing

/-- The events in a step. -/
def events (v : StepView) : List Event :=
  (List.zipWith v.eventsOf v.before v.after).flatten

end StepView

/-! ## §2 The log -/

/-- The log entry of a step. -/
structure LogEntry where
  /-- The time at its end in seconds. -/
  time : Float
  /-- Its size in seconds. -/
  step : Float
  /-- The total energy after it. -/
  energy : Float
  deriving DecidableEq

/-- The log entry of a step. -/
def StepView.logEntry (v : StepView) : LogEntry := ⟨v.time, v.step, v.energy.total⟩

/-- The largest deviation of the logged energy from the first one, in relation to it. -/
def energyDrift (log : List LogEntry) : Float :=
  match log with
  | [] => 0.0
  | first :: _ =>
    -- An energy of zero at the start must not divide.
    let scale := larger first.energy.abs epsilon
    (log.map fun e => (e.energy - first.energy).abs / scale).foldl larger 0.0

end PhysicsLab
