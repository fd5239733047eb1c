import PhysicsLab.Digest
import PhysicsLab.Number.Traced
import PhysicsLab.Simulation.Series

/-!
# Bytes of a series

A series is written as bytes, and the digest of the bytes is its fingerprint.  Numbers are written
with eight bytes, the lowest first, and what has a variable length is written after its length.  A
temperature is written after a mark; where there is none, nothing is written.

The numbers of a body are given, while the totals of a sample are sums.  So a total that is NaN is
written with the origin that it has when it is summed up again, unless it was stated.  The numbers
from which a rule computes the energies of a run are never NaN, so an energy that is NaN arose from
them.

## Main definitions

* `Series.encode` — the bytes of a series
* `Series.fingerprint` — their digest
-/

namespace PhysicsLab

open PhysicsLab.Number

/-! ## §1 Numbers -/

/-- The lowest bytes of a number, the lowest first. -/
def lowBytes : Nat → Nat → List UInt8
  | 0, _ => []
  | count + 1, n => UInt8.ofNat (n % 256) :: lowBytes count (n / 256)

/-- The eight bytes of a count. -/
def encodeCount (n : Nat) : List UInt8 := lowBytes 8 n

/-- The eight bytes of a number with a known origin. -/
def encodeTraced (t : Traced) : List UInt8 := lowBytes 8 t.bits

/-- The eight bytes of a number that is given. -/
def encodeFloat (x : Float) : List UInt8 := encodeTraced (.given x)

/-- The bytes of a text, after their number. -/
def encodeText (s : String) : List UInt8 :=
  let bytes := Digest.textBytes s
  encodeCount bytes.length ++ bytes

/-- The bytes of a number that may be absent. -/
def encodeOptional (x : Option Float) : List UInt8 :=
  match x with
  | some x => 1 :: encodeFloat x
  | none => []

/-! ## §2 Vectors -/

/-- A vector of traced numbers. -/
structure TracedVector where
  x : Traced
  y : Traced
  z : Traced

namespace TracedVector

/-- A vector that is given. -/
def given (v : Vec3) : TracedVector := ⟨.given v.x, .given v.y, .given v.z⟩

/-- The sum of two vectors. -/
def add (a b : TracedVector) : TracedVector := ⟨a.x + b.x, a.y + b.y, a.z + b.z⟩

/-- A multiple of a vector. -/
def scale (a : TracedVector) (s : Traced) : TracedVector := ⟨a.x * s, a.y * s, a.z * s⟩

/-- The vector product. -/
def cross (a b : TracedVector) : TracedVector :=
  ⟨a.y * b.z - a.z * b.y, a.z * b.x - a.x * b.z, a.x * b.y - a.y * b.x⟩

/-- The sum of some vectors. -/
def total (vs : List TracedVector) : TracedVector := vs.foldl add (given .zero)

end TracedVector

/-- The bytes of a vector that is given. -/
def Vec3.encode (v : Vec3) : List UInt8 := encodeFloat v.x ++ encodeFloat v.y ++ encodeFloat v.z

/-- The bytes of a vector whose coordinates are computed ones. -/
def Vec3.encodeWith (v : Vec3) (computed : TracedVector) : List UInt8 :=
  encodeTraced (.originOf v.x computed.x) ++ encodeTraced (.originOf v.y computed.y) ++
    encodeTraced (.originOf v.z computed.z)

/-! ## §3 Samples -/

namespace Body

/-- The linear momentum with its origin. -/
def tracedMomentum (b : Body) : TracedVector :=
  (TracedVector.given b.velocity).scale (.given b.mass)

/-- The angular momentum with its origin. -/
def tracedAngularMomentum (b : Body) : TracedVector :=
  (TracedVector.given b.position).cross b.tracedMomentum

/-- The moment of the mass with its origin. -/
def tracedMassMoment (b : Body) : TracedVector :=
  (TracedVector.given b.position).scale (.given b.mass)

/-- The bytes of the state of a body. -/
def encode (b : Body) : List UInt8 :=
  encodeText b.id ++ b.position.encode ++ b.velocity.encode ++ b.acceleration.encode ++
    encodeFloat b.mass ++ encodeFloat b.charge ++ encodeOptional b.temperature

end Body

/-- The bytes of an energy whose parts have an origin. -/
def Energy.encode (e : Energy) (origin : Float → Traced) : List UInt8 :=
  let kinetic := origin e.kinetic
  let potential := origin e.potential
  encodeTraced kinetic ++ encodeTraced potential ++
    encodeTraced (.originOf e.total (kinetic + potential))

namespace Sample

/-- The sum of a quantity over some bodies with its origin. -/
def tracedTotalOf (f : Body → Float) (bodies : List Body) : Traced :=
  bodies.foldl (fun sum b => sum + .given (f b)) (.given 0.0)

/-- The bytes of a total that is a number, which may have been computed. -/
def encodeTotal (s : Sample) (t : Total) (x : Float) (computed : Traced) : List UInt8 :=
  if s.isStated t then encodeFloat x else encodeTraced (.originOf x computed)

/-- The bytes of a total that is a vector, which may have been computed. -/
def encodeTotalVector (s : Sample) (t : Total) (v : Vec3) (computed : TracedVector) : List UInt8 :=
  if s.isStated t then v.encode else v.encodeWith computed

/-- The bytes of a sample. -/
def encode (s : Sample) : List UInt8 :=
  let totalOver (f : Body → TracedVector) : TracedVector := .total (s.bodies.map f)
  encodeFloat s.time ++ encodeCount s.bodies.length ++ s.bodies.flatMap Body.encode ++
    s.energy.encode (if s.isStated .energy then .given else .computed) ++
    s.encodeTotalVector .momentum s.momentum (totalOver Body.tracedMomentum) ++
    s.encodeTotalVector .angularMomentum s.angularMomentum
      (totalOver Body.tracedAngularMomentum) ++
    -- The centre is the moment times the reciprocal of the mass, as when it was summed up.
    s.centerOfMass.encodeWith
      ((totalOver Body.tracedMassMoment).scale (.given (1.0 / totalOf Body.mass s.bodies))) ++
    s.encodeTotal .mass s.mass (tracedTotalOf Body.mass s.bodies) ++
    s.encodeTotal .charge s.charge (tracedTotalOf Body.charge s.bodies)

end Sample

/-! ## §4 Series -/

namespace Series

/-- The bytes of a series. -/
def encode (series : Series) : List UInt8 :=
  encodeCount series.length ++ series.flatMap Sample.encode

/-- The digest of a series. -/
def fingerprint (series : Series) : String := Digest.digestHex (encode series)

end Series

end PhysicsLab
