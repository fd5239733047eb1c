import PhysicsLab.Experiment
import PhysicsLab.Simulation.Document
import PhysicsLab.Validation.Summary
import PhysicsLab.Verification.Document

/-!
# Summaries of experiments

An experiment as a JSON value and as lines for a reader, and a library as a listing.
-/

namespace PhysicsLab

open PhysicsLab.Text PhysicsLab.Number

/-- The JSON value of an experiment. -/
def Experiment.toJson (e : Experiment) : Json := .object [
  ("ir", e.model.toJson),
  ("validation", e.validation.toJson),
  ("run", e.run.toJson),
  ("result", e.verification.toJson),
  ("fingerprint", .text e.fingerprint)]

/-- The line of a check of conservation. -/
def Verification.Check.line (c : Verification.Check Float) : String :=
  "  " ++ markOf c.passed ++ " " ++ padRight 16 (labelOf c.kind) ++ " deviation " ++
    writeScientific 2 c.deviation ++ " (tolerance " ++ writeScientific 2 c.tolerance ++ ")"

/-- An experiment as lines. -/
def Experiment.summary (e : Experiment) : String :=
  let s := e.run.statistics
  let v := e.verification
  linesText (
    [ruler,
     "Character:   " ++ labelOf e.run.character,
     "Samples:     " ++ writeNat e.run.series.length,
     "Steps:       " ++ writeNat s.acceptedSteps ++ " accepted, " ++ writeNat s.failedSteps ++
       " failed"] ++
    v.checks.map Verification.Check.line ++
    (v.errors.map fun text => "  ✗ " ++ text) ++
    (v.warnings.map fun text => "  ! " ++ text) ++
    ["Quality:     " ++ writeFixed 3 v.quality.score,
     "Score:       " ++ writeFixed 3 v.score,
     "Fingerprint: " ++ e.fingerprint,
     ruler,
     if e.succeeded then "✓ SUCCESS" else "✗ FAILED"])

/-- The lines of a block in a listing: what it is, and the symbols that it declares. -/
def KnowledgeBlock.lines (b : KnowledgeBlock) : List String :=
  let needs :=
    if b.dependencies.isEmpty then ""
    else " (needs " ++ String.intercalate ", " b.dependencies ++ ")"
  [padRight 16 b.id ++ " " ++ padRight 14 (labelOf b.domain) ++ " " ++ b.name ++ needs,
   padRight 16 "" ++ " params: " ++
     String.intercalate " " (b.parameters.map DeclaredParameter.symbol)]

/-- The listing of a library. -/
def Library.listing (l : Library) : String := linesText (l.blocks.flatMap KnowledgeBlock.lines)

end PhysicsLab
