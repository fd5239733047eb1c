import PhysicsLab.Simulation.Clock
import PhysicsLab.Simulation.Event
import PhysicsLab.Simulation.Rule
import PhysicsLab.Simulation.Series

/-!
# Runs

A simulation is run by attempting steps until its end is reached.  An attempt that leaves a body in
a state that is not finite is rejected: nothing of it is kept but a message, and the next attempt is
half as long.  An accepted step is logged and looked through for events, and every so many steps the
bodies are recorded; the start and the end are recorded in any case.

A run ends early if a step would have to be shorter than the floor, if the number of attempts is
used up, or if it is cancelled, which is looked at between attempts.

## Main definitions

* `Simulation.prepare` — a simulation of a model
* `Simulation.attempt` — one attempt
* `Simulation.run` — the whole run
-/

namespace PhysicsLab

open PhysicsLab.Number

/-! ## §1 Simulations -/

/-- What is needed to run a simulation. -/
structure Simulation where
  settings : SimulationSettings
  rule : Rule
  bodies : List Body

/-- Where a run has got to.  What is collected has the latest first. -/
structure Progress where
  clock : Clock
  bodies : List Body
  samples : List Sample := []
  events : List Event := []
  log : List LogEntry := []
  messages : List String := []
  /-- Accepted steps since the last sample. -/
  unrecorded : Nat := 0

/-! ## §2 Results -/

/-- How a run ended. -/
inductive RunStatus where
  | completed
  | failed
  deriving DecidableEq, Inhabited

instance : Labelled RunStatus where
  all := [.completed, .failed]
  label
    | .completed => "completed"
    | .failed => "failed"

/-- The figures of a run. -/
structure RunStatistics where
  acceptedSteps : Nat
  failedSteps : Nat
  successRatio : Float
  /-- The smallest full step in seconds. -/
  minStep : Float
  /-- The largest full step in seconds. -/
  maxStep : Float
  /-- In seconds. -/
  finalTime : Float
  solver : Solver
  deriving DecidableEq

/-- The largest step in relation to the smallest. -/
def RunStatistics.stepRatio (s : RunStatistics) : Float :=
  if s.minStep > 0.0 then s.maxStep / s.minStep else 1.0

/-- The result of a run. -/
structure Run where
  status : RunStatus
  character : Character
  series : Series
  statistics : RunStatistics
  events : List Event
  log : List LogEntry
  messages : List String
  deriving DecidableEq

/-- Whether a run was completed. -/
def Run.isCompleted (r : Run) : Bool := r.status == .completed

namespace Simulation

/-! ## §3 Steps -/

/-- The simulation of a model with some settings. -/
def prepare (m : Model) (settings : SimulationSettings) : Except Failure Simulation :=
  settings.check.map fun _ =>
    { settings, rule := .ofModel m, bodies := m.entities.map (Body.ofEntity m) }

/-- The end of a simulation. -/
def finish (s : Simulation) : Instant := .ofSeconds s.settings.duration

/-- The accepted steps from one sample to the next. -/
def stride (s : Simulation) : Nat := max 1 s.settings.outputStride

/-- Whether the end is reached. -/
def isOver (s : Simulation) (p : Progress) : Bool := s.finish.nanos ≤ p.clock.now.nanos

/-- The progress with a sample of where it has got to. -/
def record (s : Simulation) (p : Progress) : Except Failure Progress :=
  let sample := Sample.of p.clock.now.seconds p.bodies (s.rule.energy p.bodies)
  (Series.follows p.samples.head? sample).map fun _ =>
    { p with samples := sample :: p.samples, unrecorded := 0 }

/-- The progress before the first step. -/
def start (s : Simulation) : Except Failure Progress :=
  s.record { clock := .ofSettings s.settings, bodies := s.bodies }

/-- The progress after a step of some nanoseconds that takes the bodies to a new state. -/
def accept (s : Simulation) (p : Progress) (taken : Nat) (next : List Body) :
    Except Failure Progress :=
  let clock := p.clock.accept taken (velocityChange p.bodies next)
  let view : StepView :=
    { time := clock.now.seconds
      step := Instant.secondsOf taken
      before := p.bodies
      after := next
      energy := s.rule.energy next }
  let p : Progress :=
    { p with
      clock
      bodies := next
      events := view.events.reverse ++ p.events
      log := view.logEntry :: p.log
      unrecorded := p.unrecorded + 1 }
  -- The last step is recorded whatever the stride.
  if p.unrecorded = s.stride ∨ s.isOver p then s.record p else .ok p

/-- The message about a rejected attempt. -/
def retryMessage (time step next : Float) : String :=
  "non-finite state at t=" ++ writeFixed 6 time ++ "s with step " ++ writeScientific 3 step ++
    "s, retrying at " ++ writeScientific 3 next ++ "s"

/-- The progress after a rejected attempt of some nanoseconds. -/
def reject (p : Progress) (taken : Nat) : Except Failure Progress :=
  p.clock.reject.map fun clock =>
    let message := retryMessage p.clock.now.seconds (Instant.secondsOf taken)
      (Instant.secondsOf clock.step)
    { p with clock, messages := message :: p.messages }

/-- The progress after one attempt. -/
def attempt (s : Simulation) (p : Progress) : Except Failure Progress :=
  let taken := p.clock.nextStep s.finish
  let next := s.rule.advance p.bodies p.clock.now.seconds (Instant.secondsOf taken)
  -- One body that leaves the finite numbers spoils the attempt for all.
  if next.all Body.isFinite then s.accept p taken next else reject p taken

/-! ## §4 Runs -/

/-- Whether a run that is to be cancelled after some accepted steps is cancelled by now. -/
def isCancelled (cancelAfter : Option Nat) (p : Progress) : Bool :=
  cancelAfter.any fun n => n ≤ p.clock.accepted

/-- Attempts steps until the end is reached, at most as many as are left. -/
def advance (s : Simulation) (cancelAfter : Option Nat) : Nat → Progress → Except Failure Progress
  | 0, p =>
    if s.isOver p then .ok p
    else if isCancelled cancelAfter p then .error (.cancelled p.clock.now.seconds)
    else .error (.iterationCap s.settings.maxIterations)
  | left + 1, p =>
    if s.isOver p then .ok p
    else if isCancelled cancelAfter p then .error (.cancelled p.clock.now.seconds)
    else match s.attempt p with
      | .ok p => advance s cancelAfter left p
      | .error f => .error f

/-- The message about a run in which too many attempts failed. -/
def shortfallMessage (ratio required : Float) : String :=
  "success ratio " ++ writeFixed 3 ratio ++ " below required " ++ writeFixed 3 required

/-- The figures of a run that has reached its end. -/
def statistics (s : Simulation) (c : Clock) : RunStatistics :=
  let (low, high) := c.observed.getD (c.step, c.step)
  { acceptedSteps := c.accepted
    failedSteps := c.failed
    successRatio := c.successRatio
    minStep := Instant.secondsOf low
    maxStep := Instant.secondsOf high
    finalTime := c.now.seconds
    solver := s.settings.solver }

/-- The result of a run that has reached its end. -/
def result (s : Simulation) (p : Progress) : Run :=
  let achieved := p.clock.successRatio
  let required := s.settings.minSuccessRatio
  let good := achieved ≥ required
  { status := if good then .completed else .failed
    character := s.rule.character
    series := p.samples.reverse
    statistics := s.statistics p.clock
    events := p.events.reverse
    log := p.log.reverse
    messages := p.messages.reverse ++ if good then [] else [shortfallMessage achieved required] }

/-- The result of a simulation.  A run can be cancelled after some accepted steps. -/
def run (s : Simulation) (cancelAfter : Option Nat := none) : Except Failure Run := do
  let p ← s.start
  let p ← s.advance cancelAfter s.settings.maxIterations p
  return s.result p

end Simulation

end PhysicsLab
