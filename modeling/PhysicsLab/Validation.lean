import PhysicsLab.Fields
import PhysicsLab.Validation.Checks

/-!
# Validation reports

The outcome of checking a model under some aspects.  The score is the part of the aspects without
errors.  A model can be run if no blocking aspect that was checked has errors.

## Main definitions

* `Outcome`, `Report`
* `validate` — the report of a model
-/

namespace PhysicsLab.Validation

/-! ## §1 Reports -/

/-- The findings under an aspect. -/
structure Outcome where
  aspect : Aspect
  findings : List Finding
  deriving DecidableEq

namespace Outcome

/-- The errors, in the order in which they were found. -/
def errors (o : Outcome) : List Finding := o.findings.filter Finding.isError

/-- The warnings, in the order in which they were found. -/
def warnings (o : Outcome) : List Finding := o.findings.filter fun f => !f.isError

/-- Whether there are no errors. -/
def isValid (o : Outcome) : Bool := o.errors.isEmpty

end Outcome

/-- The outcomes under the aspects that were checked. -/
structure Report where
  outcomes : List Outcome
  deriving DecidableEq

namespace Report

/-- The part of the aspects without errors. -/
def score (r : Report) : Float :=
  if r.outcomes.isEmpty then 1.0
  else Float.ofNat (r.outcomes.countP Outcome.isValid) / Float.ofNat r.outcomes.length

/-- Whether there are no errors. -/
def isValid (r : Report) : Bool := r.outcomes.all Outcome.isValid

/-- Whether an aspect was checked and there are no errors under it. -/
def isValidUnder (r : Report) (a : Aspect) : Bool :=
  (r.outcomes.find? fun o => o.aspect == a).any Outcome.isValid

/-- The outcomes under the blocking aspects. -/
def blocking (r : Report) : List Outcome := r.outcomes.filter fun o => o.aspect.blocks

/-- Whether the model can be run. -/
def canRun (r : Report) : Bool := r.blocking.all Outcome.isValid

/-- All errors. -/
def errors (r : Report) : List Finding := r.outcomes.flatMap Outcome.errors

/-- All warnings. -/
def warnings (r : Report) : List Finding := r.outcomes.flatMap Outcome.warnings

/-- The errors that block a run, as texts. -/
def blockingErrors (r : Report) : List String :=
  (r.blocking.flatMap Outcome.errors).map Finding.text

end Report

/-- The report of a model under some aspects. -/
def validateUnder (aspects : List Aspect) (m : Model) : Report :=
  ⟨((Labelled.all : List Aspect).filter aspects.contains).map fun a => ⟨a, a.check m⟩⟩

/-- The report of a model. -/
def validate (m : Model) : Report := ⟨(Labelled.all : List Aspect).map fun a => ⟨a, a.check m⟩⟩

/-! ## §2 Documents -/

/-- The JSON value of a finding. -/
def Finding.toJson (f : Finding) : Json := .object ([
  ("code", .text f.code),
  ("message", .text f.message)] ++
  Json.optionalMember "subject" .text f.subject? ++
  Json.optionalMember "suggestion" .text f.suggestion?)

/-- The JSON value of an outcome. -/
def Outcome.toJson (o : Outcome) : Json := .object [
  ("category", .ofKind o.aspect),
  ("valid", .bool o.isValid),
  ("errors", .ofList Finding.toJson o.errors),
  ("warnings", .ofList Finding.toJson o.warnings)]

/-- The JSON value of a report. -/
def Report.toJson (r : Report) : Json := .object [
  ("passes", .ofList Outcome.toJson r.outcomes),
  ("score", .float r.score),
  ("valid", .bool r.isValid)]

end PhysicsLab.Validation
