import PhysicsLab.Label
import PhysicsLab.Text.SmallLetters
import PhysicsLab.Text.Search

/-!
# Physics domains

The fields of physics that knowledge blocks belong to, and the words in a free text that point at
them.
-/

namespace PhysicsLab

/-- A field of physics. -/
inductive Domain where
  | kinematics
  | dynamics
  | oscillation
  | wave
  | electromagnetic
  | thermal
  | optical
  | quantum
  | fluid
  | relativistic
  | generic
  deriving DecidableEq, Inhabited

namespace Domain

/-- Every domain, in the order in which lists of domains are given. -/
def all : List Domain := [
  kinematics, dynamics, oscillation, wave, electromagnetic, thermal, optical, quantum, fluid,
  relativistic, generic]

instance : Labelled Domain where
  all := all
  label
    | kinematics => "kinematics"
    | dynamics => "dynamics"
    | oscillation => "oscillation"
    | wave => "wave"
    | electromagnetic => "electromagnetic"
    | thermal => "thermal"
    | optical => "optical"
    | quantum => "quantum"
    | fluid => "fluid"
    | relativistic => "relativistic"
    | generic => "generic"

/-- The words that point at a domain. -/
def keywords : Domain → List String
  | kinematics =>
    ["kinematic", "projectile", "motion", "trajectory", "free fall", "velocity"]
  | dynamics =>
    ["dynamic", "force", "newton", "friction", "incline", "collision", "mechanics"]
  | oscillation => ["oscillat", "spring", "pendulum", "harmonic", "vibration"]
  | wave => ["wave", "sound", "interference", "standing", "frequency"]
  | electromagnetic => ["electr", "magnet", "charge", "lorentz", "field", "circuit"]
  | thermal => ["thermal", "heat", "temperature", "cooling", "thermodynamic"]
  | optical => ["optic", "light", "lens", "refraction", "reflection", "mirror"]
  | quantum => ["quantum", "photon", "electron", "wavefunction", "tunnel"]
  | fluid => ["fluid", "buoyan", "drag", "viscous", "flow", "liquid"]
  | relativistic => ["relativ", "lorentz factor", "speed of light", "time dilation"]
  | generic => []

/-- The domains that a text mentions. -/
def mentionedIn (text : String) : List Domain :=
  let small := Text.toSmall text
  all.filter fun d => Text.containsAny small d.keywords

end Domain

end PhysicsLab
