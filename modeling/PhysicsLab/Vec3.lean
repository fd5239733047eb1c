/-!
# Vectors

Vectors of three coordinates, for positions, velocities and accelerations.  Sums run from the first
coordinate to the last.
-/

namespace PhysicsLab

/-- A vector in space. -/
structure Vec3 where
  x : Float
  y : Float
  z : Float
  deriving DecidableEq, Inhabited

namespace Vec3

/-- The null vector. -/
def zero : Vec3 := ⟨0.0, 0.0, 0.0⟩

instance : Add Vec3 := ⟨fun a b => ⟨a.x + b.x, a.y + b.y, a.z + b.z⟩⟩
instance : Sub Vec3 := ⟨fun a b => ⟨a.x - b.x, a.y - b.y, a.z - b.z⟩⟩
instance : Neg Vec3 := ⟨fun a => ⟨-a.x, -a.y, -a.z⟩⟩

/-- A multiple of a vector. -/
def scale (a : Vec3) (s : Float) : Vec3 := ⟨a.x * s, a.y * s, a.z * s⟩

/-- The scalar product. -/
def dot (a b : Vec3) : Float := a.x * b.x + a.y * b.y + a.z * b.z

/-- The vector product. -/
def cross (a b : Vec3) : Vec3 :=
  ⟨a.y * b.z - a.z * b.y, a.z * b.x - a.x * b.z, a.x * b.y - a.y * b.x⟩

/-- The square of the length. -/
def normSquared (a : Vec3) : Float := a.x * a.x + a.y * a.y + a.z * a.z

/-- The length. -/
def norm (a : Vec3) : Float := a.normSquared.sqrt

/-- Whether every coordinate is finite. -/
def isFinite (a : Vec3) : Bool := a.x.isFinite && a.y.isFinite && a.z.isFinite

end Vec3

end PhysicsLab
