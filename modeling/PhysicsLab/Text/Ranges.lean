/-!
# Sorted code ranges

A character property is a list of inclusive ranges of code points in rising order.  Looking a code
point up stops at the first range that starts above it, so the common ASCII characters are decided
by the first few ranges.
-/

namespace PhysicsLab.Text

/-- Inclusive ranges of code points, disjoint and in rising order. -/
abbrev CodeRanges := List (Nat × Nat)

/-- Whether a code point lies in one of the ranges. -/
def CodeRanges.has : CodeRanges → Nat → Bool
  | [], _ => false
  | (lo, hi) :: rest, n =>
    if n < lo then false else if n ≤ hi then true else CodeRanges.has rest n

end PhysicsLab.Text
