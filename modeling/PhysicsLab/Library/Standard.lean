import PhysicsLab.Library

/-!
# The standard library

The eleven blocks that every problem can draw on.  Values are defaults: a stated parameter overrules
the value that a block declares.
-/

namespace PhysicsLab.Library.Standard

/-! ## Declarations -/

/-- A parameter whose value has to be stated. -/
def given (symbol : String) (value : Float) (unit description : String) : DeclaredParameter :=
  { symbol, value, unit, role := .given, description }

/-- A parameter that is sought. -/
def unknown (symbol : String) (value : Float) (unit description : String) : DeclaredParameter :=
  { symbol, value, unit, role := .unknown, description }

/-- A constant of nature. -/
def constant (symbol : String) (value : Float) (unit description : String) : DeclaredParameter :=
  { symbol, value, unit, role := .constant, description }

/-- A parameter that follows from others by a formula. -/
def derived (symbol unit formula description : String) : DeclaredParameter :=
  { symbol, value := 0.0, unit, role := .derived, description, formula := some formula }

/-- An equation; whether it is linear is seen from its expression. -/
def equation (id : String) (kind : EquationKind) (expression meaning : String) :
    DeclaredEquation :=
  { id, kind, expression, meaning }

/-! ## Blocks -/

/-- Motion under constant acceleration. -/
def kinematics : KnowledgeBlock where
  id := "kinematics"
  name := "Kinematics"
  domain := .kinematics
  description :=
    "Motion described by position, velocity and acceleration: projectile, free fall and " ++
    "trajectory problems"
  parameters := [
    given "x0" 0.0 "m" "initial position",
    given "v0" 0.0 "m/s" "initial velocity",
    given "a" 0.0 "m/s^2" "acceleration",
    given "t" 0.0 "s" "elapsed time",
    unknown "x" 0.0 "m" "position",
    unknown "v" 0.0 "m/s" "velocity",
    constant "g" 9.81 "m/s^2" "gravitational acceleration"]
  equations := [
    equation "velocity" .algebraic "v = v0 + a*t" "velocity under constant acceleration",
    equation "position" .algebraic "x = x0 + v0*t + 0.5*a*t^2"
      "position under constant acceleration",
    equation "rate_x" .differential "diff(x, t) = v" "velocity is the rate of change of position",
    equation "rate_v" .differential "diff(v, t) = a"
      "acceleration is the rate of change of velocity"]
  outputs := ["x", "v"]
  conserves := [.energy]
  assumptions := ["point mass", "constant acceleration"]
  limitations := ["no air resistance"]

/-- Forces and Newton's laws. -/
def dynamics : KnowledgeBlock where
  id := "dynamics"
  name := "Dynamics"
  domain := .dynamics
  description :=
    "Forces acting on bodies through Newton's laws, friction, normal force and inclines"
  parameters := [
    given "m" 1.0 "kg" "mass",
    unknown "F" 0.0 "N" "net force",
    constant "g" 9.81 "m/s^2" "gravitational acceleration",
    given "mu" 0.0 "1" "friction coefficient",
    derived "N" "N" "m * g" "normal force",
    derived "F_f" "N" "mu * N" "friction force"]
  equations := [
    equation "newton2" .algebraic "F = m * a" "Newton's second law",
    equation "motion" .differential "diff(v, t) = F / m" "equation of motion",
    equation "friction" .definition "F_f = mu * N" "kinetic friction"]
  outputs := ["F", "a"]
  dependencies := ["kinematics"]
  conserves := [.energy, .mass]
  assumptions := ["rigid bodies", "inertial frame"]
  complexity := .intermediate

/-- Springs and pendulums. -/
def oscillation : KnowledgeBlock where
  id := "oscillation"
  name := "Harmonic Oscillator"
  domain := .oscillation
  description := "Spring and pendulum systems with periodic harmonic motion and damping"
  parameters := [
    given "k" 10.0 "N/m" "spring constant",
    given "m" 1.0 "kg" "mass",
    given "b" 0.0 "kg/s" "damping coefficient",
    given "A" 0.1 "m" "amplitude",
    derived "omega" "rad/s" "sqrt(k / m)" "angular frequency",
    derived "T_period" "s" "2 * pi / omega" "period"]
  equations := [
    equation "motion" .differential "diff(v, t) = -(k / m) * x - (b / m) * v"
      "damped harmonic motion",
    equation "frequency" .definition "omega = sqrt(k / m)" "natural angular frequency",
    equation "period" .definition "T_period = 2 * pi / omega" "oscillation period",
    equation "energy" .conservation "E = 0.5*m*v^2 + 0.5*k*x^2" "mechanical energy"]
  outputs := ["x", "v", "T_period"]
  conserves := [.energy]
  assumptions := ["linear restoring force", "small amplitude"]
  complexity := .intermediate

/-- Travelling waves. -/
def wave : KnowledgeBlock where
  id := "wave"
  name := "Wave Motion"
  domain := .wave
  description := "Mechanical waves with wavelength, frequency, interference and sound propagation"
  parameters := [
    given "A" 0.1 "m" "amplitude",
    given "lambda" 1.0 "m" "wavelength",
    given "f" 1.0 "Hz" "frequency",
    derived "k_wave" "1/m" "2 * pi / lambda" "wavenumber",
    derived "omega" "rad/s" "2 * pi * f" "angular frequency",
    derived "v" "m/s" "f * lambda" "wave speed"]
  equations := [
    equation "displacement" .algebraic "y = A * sin(k_wave*x - omega*t)" "travelling wave",
    equation "speed" .definition "v = f * lambda" "wave speed"]
  outputs := ["y", "v"]
  conserves := [.energy]
  assumptions := ["linear medium"]
  complexity := .intermediate

/-- Charged particles in fields. -/
def electromagnetic : KnowledgeBlock where
  id := "electromagnetic"
  name := "Electromagnetism"
  domain := .electromagnetic
  description := "Charged particles moving in electric and magnetic fields under the Lorentz force"
  parameters := [
    given "q" 1e-6 "C" "charge",
    given "m" 1.0 "kg" "mass",
    given "E_field" 0.0 "V/m" "electric field strength",
    given "B" 0.0 "T" "magnetic flux density"]
  equations := [
    equation "lorentz" .algebraic "F = q * (E_field + v * B)" "Lorentz force",
    equation "motion" .differential "diff(v, t) = q / m * (E_field + v * B)"
      "charged particle motion"]
  outputs := ["F", "v"]
  conserves := [.charge, .energy]
  assumptions := ["uniform fields", "non-radiating charge"]
  complexity := .advanced

/-- Cooling bodies. -/
def thermal : KnowledgeBlock where
  id := "thermal"
  name := "Heat Transfer"
  domain := .thermal
  description := "Thermal systems with heat flow, temperature change and Newton cooling"
  parameters := [
    given "T" 293.15 "K" "body temperature",
    given "T_env" 293.15 "K" "ambient temperature",
    given "k_cool" 0.1 "1/s" "cooling rate",
    constant "c_p" 4186.0 "J/(kg*K)" "specific heat",
    derived "Q" "J" "m * c_p * (T - T_env)" "heat released"]
  equations := [
    equation "cooling" .differential "diff(T, t) = -k_cool * (T - T_env)" "Newton's law of cooling",
    equation "heat" .definition "Q = m * c_p * (T - T_env)" "sensible heat"]
  outputs := ["T", "Q"]
  assumptions := ["lumped capacitance"]
  complexity := .intermediate

/-- Light rays. -/
def optics : KnowledgeBlock where
  id := "optics"
  name := "Geometric Optics"
  domain := .optical
  description := "Light rays through lenses and mirrors with refraction and reflection"
  parameters := [
    given "n1" 1.0 "1" "refractive index of the first medium",
    given "n2" 1.5 "1" "refractive index of the second medium",
    given "theta1" 0.0 "rad" "angle of incidence",
    given "f_lens" 0.1 "m" "focal length",
    given "d_o" 0.3 "m" "object distance",
    unknown "d_i" 0.0 "m" "image distance"]
  equations := [
    equation "snell" .algebraic "n1 * sin(theta1) = n2 * sin(theta2)" "Snell's law",
    equation "thin_lens" .algebraic "1 / f_lens = 1 / d_o + 1 / d_i" "thin lens equation"]
  outputs := ["theta2", "d_i"]
  assumptions := ["paraxial rays"]

/-- Buoyancy and drag. -/
def fluid : KnowledgeBlock where
  id := "fluid"
  name := "Fluid Statics and Drag"
  domain := .fluid
  description := "Bodies immersed in a fluid with buoyancy and viscous drag"
  parameters := [
    given "rho" 1000.0 "kg/m^3" "fluid density",
    given "V_obj" 0.001 "m^3" "displaced volume",
    given "b_drag" 0.5 "kg/s" "linear drag coefficient",
    given "m" 1.0 "kg" "mass",
    constant "g" 9.81 "m/s^2" "gravitational acceleration",
    derived "F_b" "N" "rho * V_obj * g" "buoyant force"]
  equations := [
    equation "buoyancy" .definition "F_b = rho * V_obj * g" "Archimedes' principle",
    equation "motion" .differential "diff(v, t) = g * (rho * V_obj / m - 1) - b_drag / m * v"
      "buoyant motion with drag"]
  outputs := ["v", "F_b"]
  conserves := [.mass]
  assumptions := ["incompressible fluid", "laminar drag"]
  complexity := .intermediate

/-- Matter waves. -/
def quantum : KnowledgeBlock where
  id := "quantum"
  name := "Quantum Particle"
  domain := .quantum
  description := "Phenomenological quantum particle with de Broglie wavelength and photon energy"
  parameters := [
    constant "hbar" 1.054571817e-34 "J*s" "reduced Planck constant",
    given "m" 9.1093837e-31 "kg" "particle mass",
    given "p" 0.0 "kg*m/s" "momentum",
    derived "lambda" "m" "2 * pi * hbar / p" "de Broglie wavelength"]
  equations := [
    equation "kinetic" .algebraic "E = p^2 / (2 * m)" "free-particle energy",
    equation "de_broglie" .definition "lambda = 2 * pi * hbar / p" "de Broglie relation"]
  outputs := ["E", "lambda"]
  conserves := [.energy, .momentum]
  assumptions := ["free particle"]
  limitations := ["classical trajectory only"]
  complexity := .advanced

/-- Fast motion. -/
def relativistic : KnowledgeBlock where
  id := "relativistic"
  name := "Special Relativity"
  domain := .relativistic
  description := "High-speed motion near the speed of light with Lorentz factor and time dilation"
  parameters := [
    constant "c" Units.speedOfLight "m/s" "speed of light",
    given "m" 1.0 "kg" "rest mass",
    given "v" 0.0 "m/s" "speed",
    given "F" 0.0 "N" "applied force",
    derived "gamma" "1" "1 / sqrt(1 - v^2 / c^2)" "Lorentz factor"]
  equations := [
    equation "lorentz_factor" .definition "gamma = 1 / sqrt(1 - v^2 / c^2)" "Lorentz factor",
    equation "momentum" .algebraic "p = gamma * m * v" "relativistic momentum",
    equation "force" .differential "diff(p, t) = F" "relativistic Newton's law"]
  outputs := ["gamma", "p"]
  assumptions := ["inertial frames"]
  limitations := ["no radiation"]
  complexity := .advanced

/-- Anything under uniform gravity. -/
def generic : KnowledgeBlock where
  id := "generic"
  name := "Generic Mechanics"
  domain := .generic
  description := "General physical system under uniform gravity"
  conserves := [.mass]

end PhysicsLab.Library.Standard

namespace PhysicsLab

open Library.Standard in
/-- The standard library. -/
def Library.standard : Library := .ofList [
  kinematics, dynamics, oscillation, wave, electromagnetic, thermal, optics, fluid, quantum,
  relativistic, generic]

end PhysicsLab
