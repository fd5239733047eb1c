import PhysicsLab.Failure
import PhysicsLab.Simulation.Sample

/-!
# Series of samples

The samples of a simulation in the order of their times.  A sample is added only if it is later than
the last one.
-/

namespace PhysicsLab

/-- Samples in the order in which they were recorded. -/
abbrev Series := List Sample

namespace Series

/-- Accepts a sample after the last one, if it is later. -/
def follows (last : Option Sample) (s : Sample) : Except Failure Unit :=
  match last with
  | some l => if s.time > l.time then .ok () else .error (.notLater l.time s.time)
  | none => .ok ()

/-- Adds a sample that is later than the last one. -/
def push (series : Series) (s : Sample) : Except Failure Series :=
  (follows series.getLast? s).map fun _ => series ++ [s]

end Series

end PhysicsLab
