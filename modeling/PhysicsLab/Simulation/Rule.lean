import PhysicsLab.Simulation.Sample

/-!
# Rules of motion

A rule says how bodies move.  Which one applies is decided by the domains of the modules of a model,
in a fixed order of precedence; its numbers are read from the parameters and the surroundings.

Each step first computes the acceleration of every body, then the new velocity, then the new
position with the new velocity, and at last applies what the ground and other guides enforce.  A
body that moves relativistically gets its velocity from its momentum.  Bodies do not act on each
other.

## Main definitions

* `Character.ofDomains`, `Rule.ofModel` — the rule of a model
* `Rule.acceleration`, `Rule.advance` — one step
* `Rule.energy` — the energy of some bodies
-/

namespace PhysicsLab

open PhysicsLab.Number

/-! ## §1 Characters -/

/-- The character of a system. -/
inductive Character where
  | mixedKinematics
  | oscillation
  | wave
  | electromagnetic
  | thermal
  | fluid
  | quantum
  | relativistic
  | generic
  deriving DecidableEq, Inhabited

instance : Labelled Character where
  all := [.mixedKinematics, .oscillation, .wave, .electromagnetic, .thermal, .fluid, .quantum,
    .relativistic, .generic]
  label
    | .mixedKinematics => "mixed_kinematics"
    | .oscillation => "oscillation"
    | .wave => "wave"
    | .electromagnetic => "electromagnetic"
    | .thermal => "thermal"
    | .fluid => "fluid"
    | .quantum => "quantum"
    | .relativistic => "relativistic"
    | .generic => "generic"

namespace Character

/-- The domains that a character needs. -/
def domains : Character → List Domain
  | mixedKinematics => [.kinematics, .dynamics]
  | oscillation => [.oscillation]
  | wave => [.wave]
  | electromagnetic => [.electromagnetic]
  | thermal => [.thermal]
  | fluid => [.fluid]
  | quantum => [.quantum]
  | relativistic => [.relativistic]
  | generic => []

/-- The first character whose domains are all there. -/
def ofDomains (ds : List Domain) : Character :=
  ((Labelled.all : List Character).find? fun c => c.domains.all ds.contains).getD generic

end Character

/-! ## §2 Rules -/

/-- What happens to a body that reaches the ground. -/
structure Ground where
  /-- Part of the speed that it keeps when it bounces off. -/
  restitution : Float
  /-- Coefficient of friction. -/
  friction : Float
  deriving DecidableEq

/-- How bodies move. -/
inductive Rule where
  /-- Gravity above a ground, or down an incline that descends along the first axis. -/
  | mixedKinematics (gravity : Float) (ground : Ground) (incline : Option Float)
  /-- A damped spring along the first axis. -/
  | oscillation (gravity stiffness damping : Float)
  /-- A travelling wave that shakes bodies up and down. -/
  | wave (gravity amplitude omega wavenumber : Float)
  /-- An electric field along the first axis and a magnetic one along the third. -/
  | electromagnetic (gravity electric magnetic : Float)
  /-- Gravity above a ground, and cooling towards the ambient temperature. -/
  | thermal (gravity : Float) (ground : Ground) (ambient coolingRate : Float)
  /-- Gravity above a ground, buoyancy and drag. -/
  | fluid (gravity : Float) (ground : Ground) (density displacedVolume drag : Float)
  /-- No forces. -/
  | quantum
  /-- A constant force along the first axis, at speeds near that of light. -/
  | relativistic (gravity force lightSpeed : Float)
  /-- Gravity above a ground. -/
  | generic (gravity : Float) (ground : Ground)
  deriving DecidableEq

namespace Rule

/-- The character that a rule belongs to. -/
def character : Rule → Character
  | mixedKinematics .. => .mixedKinematics
  | oscillation .. => .oscillation
  | wave .. => .wave
  | electromagnetic .. => .electromagnetic
  | thermal .. => .thermal
  | fluid .. => .fluid
  | quantum => .quantum
  | relativistic .. => .relativistic
  | generic .. => .generic

/-- The downward acceleration. -/
def gravity : Rule → Float
  | mixedKinematics g .. => g
  | oscillation g .. => g
  | wave g .. => g
  | electromagnetic g .. => g
  | thermal g .. => g
  | fluid g .. => g
  | quantum => 0.0
  | relativistic g .. => g
  | generic g .. => g

/-! ### The rule of a model -/

/-- The value of the first of some symbols, or a default where it is absent or not finite. -/
def valueOr (m : Model) (symbols : List String) (default : Float) : Float :=
  ((m.firstValue? symbols).filter Float.isFinite).getD default

/-- The angle of the incline of a model, if there is one between level and upright. -/
def incline? (m : Model) : Option Float :=
  (m.firstValue? ["incline", "incline_angle", "alpha_incline"]).filter fun angle =>
    angle.isFinite && angle > 0.0 && angle < pi / 2.0

/-- The rule of a model. -/
def ofModel (m : Model) : Rule :=
  let e := m.environment
  let ground : Ground := ⟨clamp 0.0 1.0 e.restitution, larger e.friction 0.0⟩
  match Character.ofDomains (m.modules.map PhysicsModule.domain) with
  | .mixedKinematics => mixedKinematics e.gravity ground (incline? m)
  | .oscillation => oscillation e.gravity (valueOr m ["k"] 10.0) (valueOr m ["b"] 0.0)
  | .wave =>
    let wavelength := valueOr m ["lambda"] 1.0
    wave e.gravity (valueOr m ["A"] 0.1) (2.0 * pi * valueOr m ["f"] 1.0)
      -- Without a positive wavelength the wave has the same phase everywhere.
      (if wavelength > 0.0 then 2.0 * pi / wavelength else 0.0)
  | .electromagnetic =>
    electromagnetic e.gravity (valueOr m ["E_field"] 0.0) (valueOr m ["B"] 0.0)
  | .thermal => thermal e.gravity ground e.temperature (valueOr m ["k_cool"] 0.1)
  | .fluid =>
    fluid e.gravity ground (valueOr m ["rho"] 1000.0) (valueOr m ["V_obj"] 0.0)
      -- The drag of the surroundings goes before a stated coefficient.
      (if e.dragCoefficient > 0.0 then e.dragCoefficient else valueOr m ["b_drag"] 0.0)
  | .quantum => quantum
  | .relativistic =>
    let c := valueOr m ["c"] Units.speedOfLight
    relativistic e.gravity (valueOr m ["F"] 0.0) (if c > 0.0 then c else Units.speedOfLight)
  | .generic => generic e.gravity ground

/-! ## §3 Forces -/

/-- The direction down an incline. -/
def inclineDirection (angle : Float) : Vec3 := ⟨angle.cos, -angle.sin, 0.0⟩

/-- The acceleration of a body along an incline.  Friction acts against the motion; a body at rest
is not pushed uphill. -/
def inclineAcceleration (gravity : Float) (ground : Ground) (angle : Float) (b : Body) : Float :=
  let speed := b.velocity.dot (inclineDirection angle)
  let friction := ground.friction * gravity * angle.cos
  let a := gravity * angle.sin - (if speed ≥ 0.0 then friction else -friction)
  if speed.abs < epsilon && a < 0.0 then 0.0 else a

/-- The acceleration of a body at a time. -/
def acceleration (r : Rule) (b : Body) (time : Float) : Vec3 :=
  let down : Vec3 := ⟨0.0, -r.gravity, 0.0⟩
  match r with
  | mixedKinematics g ground (some angle) =>
    (inclineDirection angle).scale (inclineAcceleration g ground angle b)
  | mixedKinematics _ _ none => down
  | oscillation _ stiffness damping =>
    let spring := -(stiffness / b.mass) * b.position.x - damping / b.mass * b.velocity.x
    down + ⟨spring, 0.0, 0.0⟩
  | wave _ amplitude omega wavenumber =>
    let source :=
      -amplitude * omega * omega * (wavenumber * b.position.x - omega * time).sin
    down + ⟨0.0, source, 0.0⟩
  | electromagnetic _ electric magnetic =>
    let field := (⟨electric, 0.0, 0.0⟩ : Vec3) + b.velocity.cross ⟨0.0, 0.0, magnetic⟩
    down + field.scale (b.charge / b.mass)
  | thermal .. => down
  | fluid g _ density displacedVolume drag =>
    let buoyancy : Vec3 := ⟨0.0, density * displacedVolume * g / b.mass, 0.0⟩
    down + buoyancy - b.velocity.scale (drag / b.mass)
  | quantum => .zero
  | relativistic _ force _ => down + ⟨force / b.mass, 0.0, 0.0⟩
  | generic .. => down

/-! ## §4 Guides -/

/-- The body after it has met the ground.  It bounces off, unless the rebound is smaller than what
gravity takes in two steps, and friction slows its sliding. -/
def meetGround (ground : Ground) (gravity dt : Float) (b : Body) : Body :=
  if b.position.y ≥ 0.0 then b
  else
    -- A body that comes from above bounces; one that is on its way up already goes on.
    let rebound := -b.velocity.y * ground.restitution
    let vy :=
      if b.velocity.y < 0.0 then (if rebound < 2.0 * gravity * dt then 0.0 else rebound)
      else b.velocity.y
    -- Friction takes from the speed along the ground, but does not turn it round.
    let sliding : Vec3 := ⟨b.velocity.x, 0.0, b.velocity.z⟩
    let speed := sliding.norm
    let slowed :=
      if ground.friction > 0.0 && speed > 0.0 then
        sliding.scale (larger (speed - ground.friction * gravity * dt) 0.0 / speed)
      else sliding
    { b with
      position := { b.position with y := 0.0 }
      velocity := ⟨slowed.x, vy, slowed.z⟩ }

/-- The body kept above a floor. -/
def stayAbove (b : Body) : Body :=
  if b.position.y < 0.0 then
    { b with
      position := { b.position with y := 0.0 }
      velocity := { b.velocity with y := larger b.velocity.y 0.0 } }
  else b

/-- The body with a velocity along an incline, if there is one. -/
def followIncline (incline : Option Float) (b : Body) : Body :=
  match incline with
  | some angle =>
    let along := inclineDirection angle
    { b with velocity := along.scale (b.velocity.dot along) }
  | none => b

/-- The body after what is not motion has happened to it, and guides have been applied. -/
def constrain (r : Rule) (dt : Float) (b : Body) : Body :=
  match r with
  | mixedKinematics g ground incline => meetGround ground g dt (followIncline incline b)
  | oscillation .. => stayAbove b
  | thermal g ground ambient coolingRate =>
    let b := meetGround ground g dt b
    { b with temperature := b.temperature.map fun t => t - coolingRate * (t - ambient) * dt }
  | fluid g ground .. => meetGround ground g dt b
  | generic g ground => meetGround ground g dt b
  | wave .. => b
  | electromagnetic .. => b
  | quantum => b
  | relativistic .. => b

/-! ## §5 Steps -/

/-- The part of the speed of light that a body may reach. -/
def lightCap : Float := 1.0 - 1e-12

/-- The Lorentz factor of a speed. -/
def lorentzFactor (speed lightSpeed : Float) : Float :=
  let beta := smaller (speed / lightSpeed) lightCap
  1.0 / (1.0 - beta * beta).sqrt

/-- The velocity of a body after a force has acted on its relativistic momentum. -/
def relativisticVelocity (b : Body) (force : Vec3) (dt lightSpeed : Float) : Vec3 :=
  -- The momentum after the force, and the velocity that belongs to it.
  let gamma := lorentzFactor b.velocity.norm lightSpeed
  let p := b.velocity.scale (gamma * b.mass) + force.scale dt
  let mc := b.mass * lightSpeed
  let v := p.scale (1.0 / (b.mass * (1.0 + p.normSquared / (mc * mc)).sqrt))
  -- Rounding must not lift the speed to that of light.
  let speed := v.norm
  if speed ≥ lightSpeed * lightCap then v.scale (lightSpeed * lightCap / speed) else v

/-- The body after a step without guides. -/
def move (r : Rule) (time dt : Float) (b : Body) : Body :=
  let a := r.acceleration b time
  match r with
  | relativistic _ _ lightSpeed =>
    let v := relativisticVelocity b (a.scale b.mass) dt lightSpeed
    { b with
      acceleration := (v - b.velocity).scale (1.0 / dt)
      velocity := v
      position := b.position + v.scale dt }
  | _ =>
    let v := b.velocity + a.scale dt
    { b with acceleration := a, velocity := v, position := b.position + v.scale dt }

/-- The body after a step. -/
def step (r : Rule) (time dt : Float) (b : Body) : Body := r.constrain dt (r.move time dt b)

/-- The bodies after a step. -/
def advance (r : Rule) (bodies : List Body) (time dt : Float) : List Body :=
  bodies.map (r.step time dt)

/-! ## §6 Energy -/

/-- The kinetic energy of a body. -/
def kineticEnergy (r : Rule) (b : Body) : Float :=
  match r with
  | relativistic _ _ c => (lorentzFactor b.velocity.norm c - 1.0) * b.mass * c * c
  | _ => 0.5 * b.mass * b.velocity.normSquared

/-- The potential energy of a body, from the ground up. -/
def potentialEnergy (r : Rule) (b : Body) : Float :=
  let height := b.mass * r.gravity * b.position.y
  match r with
  | oscillation _ stiffness _ => 0.5 * stiffness * b.position.x * b.position.x + height
  | electromagnetic _ electric _ => -b.charge * electric * b.position.x + height
  | fluid g _ density displacedVolume _ =>
    (b.mass - density * displacedVolume) * g * b.position.y
  | _ => height

/-- The energy of some bodies. -/
def energy (r : Rule) (bodies : List Body) : Energy :=
  .of (sum (bodies.map r.kineticEnergy)) (sum (bodies.map r.potentialEnergy))

end Rule

end PhysicsLab
