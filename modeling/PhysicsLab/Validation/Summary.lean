import PhysicsLab.Text.Search
import PhysicsLab.Validation

/-!
# Summaries of validation

A report of validation as lines for a reader: one line for each aspect, one for each finding, and
the score.
-/

namespace PhysicsLab

open PhysicsLab.Text PhysicsLab.Number

/-- Lines, each ended. -/
def linesText (lines : List String) : String := String.join (lines.map fun l => l ++ "\n")

/-- The line above and below a summary. -/
def ruler : String := String.ofList (List.replicate 65 '━')

/-- The mark of what is in order. -/
def markOf (good : Bool) : String := if good then "✓" else "✗"

namespace Validation

/-- The line of an aspect. -/
def Outcome.line (o : Outcome) : String :=
  "  " ++ markOf o.isValid ++ " " ++ padRight 11 (labelOf o.aspect) ++ " " ++
    writeNat o.errors.length ++ " error(s), " ++ writeNat o.warnings.length ++ " warning(s)"

/-- A report as lines. -/
def Report.summary (r : Report) : String := linesText (
  [ruler] ++
  r.outcomes.map Outcome.line ++
  (r.errors.map fun f => "  ✗ " ++ f.text) ++
  (r.warnings.map fun f => "  ! " ++ f.text) ++
  ["  Score: " ++ writeFixed 3 r.score ++ "  Runnable: " ++
    (if r.canRun then "true" else "false"),
   ruler])

end Validation

end PhysicsLab
