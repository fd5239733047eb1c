import PhysicsLab.Fields
import PhysicsLab.Verification

/-!
# Verification in documents

The JSON values of a report about a run.
-/

namespace PhysicsLab.Verification

/-- The JSON value of a check. -/
def Check.toJson (c : Check Float) : Json := .object [
  ("kind", .ofKind c.kind),
  ("initial", .float c.initial),
  ("final_value", .float c.final),
  ("deviation", .float c.deviation),
  ("tolerance", .float c.tolerance),
  ("passed", .bool c.passed)]

/-- The JSON value of an issue. -/
def Issue.toJson (i : Issue) : Json := .object [
  ("category", .ofKind i.cause.kind),
  ("time", .ofOption (fun site => .float site.1) i.site),
  ("entity", .ofOption (fun site => .text site.2) i.site),
  ("message", .text i.cause.message)]

/-- The JSON value of a quality. -/
def Quality.toJson (q : Quality) : Json := .object [
  ("missing_fields", .ofNat q.missing),
  ("corrupted_fields", .ofNat q.nonFinite),
  ("continuity", .float q.continuity),
  ("consistency", .float q.consistency),
  ("outlier_ratio", .float q.outlierRatio),
  ("noise_level", .float q.noise),
  ("score", .float q.score),
  ("recommendations", .ofTexts q.recommendations)]

/-- The JSON value of a report. -/
def Report.toJson (r : Report) : Json := .object [
  ("conservation", .ofList Check.toJson r.checks),
  ("constraint_violations", .ofList Issue.toJson r.constraintViolations),
  ("stability_issues", .ofList Issue.toJson r.stabilityIssues),
  ("causality_violations", .ofList Issue.toJson r.causalityViolations),
  ("errors", .ofTexts r.errors),
  ("warnings", .ofTexts r.warnings),
  ("data_quality", r.quality.toJson),
  ("score", .float r.score),
  ("success", .bool r.success)]

end PhysicsLab.Verification
