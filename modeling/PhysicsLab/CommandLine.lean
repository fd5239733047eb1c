import PhysicsLab.CommandLine.Command
import PhysicsLab.Experiment.Summary
import PhysicsLab.Json.Printer
import PhysicsLab.Library.Standard
import PhysicsLab.Settings.Yaml

/-!
# The command line

What a command writes and with which code it ends, given the files that it may read and how numbers
of a document are converted.  Reports go to the standard output as JSON, and summaries to the
standard error.  The code is 0 for success, 1 for a failure, and 2 for a report that is bad.

## Main definitions

* `Host` — what a command is given
* `Response` — texts and code
* `perform` — the response to a command
-/

namespace PhysicsLab.CommandLine

open PhysicsLab.Number

/-- What a command writes and with which code it ends. -/
structure Response where
  output : String := ""
  errors : String := ""
  code : Nat := 0
  deriving DecidableEq

/-- What a command is given from outside. -/
structure Host where
  /-- The files that can be read. -/
  files : String → Option String
  /-- The double that a number of a document is read as. -/
  convert : Json.Numeral → Float

/-- The version of the program. -/
def versionText : String := "physir 0.1.0"

/-- The help about the program. -/
def helpText : String := linesText [
  "physir - physical-problem IR, simulation and result verification",
  "",
  "USAGE:",
  "    physir <COMMAND> [OPTIONS]",
  "",
  "COMMANDS:",
  "    run <problem.json>          Build, validate, simulate and verify; prints JSON",
  "        --config <run.yaml>     Run configuration",
  "",
  "    validate <problem.json>     Build and validate the IR only; prints JSON",
  "        --config <run.yaml>     Run configuration",
  "",
  "    verify <problem.json>       Check runs reproduce bit-identical series",
  "        --runs <N>              Number of runs (default: 3)",
  "",
  "    modules                     List the module catalog",
  "",
  "    help                        Show this help message",
  "    version                     Show version information",
  "",
  "GLOBAL OPTIONS:",
  "    --log-level <LEVEL>         error, warn, info, debug or trace (default: RUST_LOG or warn)",
  "",
  "EXAMPLES:",
  "    physir run problems/free_fall.json",
  "    physir run problems/spring.json --config run.yaml --log-level info",
  "    physir verify problems/spring.json --runs 5",
  ""]

/-! ## §1 Files -/

/-- The text of a file. -/
def readFile (host : Host) (path : String) : Except Failure String :=
  match host.files path with
  | some text => .ok text
  | none => .error .file

/-- The problem in a file. -/
def readProblem (host : Host) (path : String) : Except Failure Problem := do
  match Problem.parse? host.convert (← readFile host path) with
  | some p => return p
  | none => throw .json

/-- The settings in a file, or the usual ones. -/
def readSettings (host : Host) (path : Option String) : Except Failure RunSettings :=
  match path with
  | some path => (readFile host path).bind RunSettings.load
  | none => .ok {}

/-! ## §2 Responses -/

/-- The response to a command that failed. -/
def failureResponse (f : Failure) : Response :=
  { errors := "Error: " ++ f.message ++ "\n", code := 1 }

/-- A response, or that to the failure that prevented it. -/
def respond (r : Except Failure Response) : Response :=
  match r with
  | .ok response => response
  | .error f => failureResponse f

/-- The response with an indented report and a summary. -/
def reportResponse (report : Json) (summary : String) (good : Bool) : Response :=
  { output := report.pretty ++ "\n", errors := summary, code := if good then 0 else 2 }

/-- Conducts the experiment of a problem. -/
def runProblem (host : Host) (path : String) (config : Option String) : Response := respond do
  let p ← readProblem host path
  let settings ← readSettings host config
  let e ← Experiment.conduct .standard settings p
  return reportResponse e.toJson e.summary e.succeeded

/-- Validates the model of a problem. -/
def validateProblem (host : Host) (path : String) (config : Option String) : Response :=
  respond do
    let p ← readProblem host path
    let settings ← readSettings host config
    let report := Validation.validate (p.toModel .standard settings)
    return reportResponse report.toJson report.summary report.canRun

/-- Compares the fingerprints of several runs of a problem.  A run depends on nothing but the
problem, so that one stands for all. -/
def compareRuns (host : Host) (path : String) (runs : Nat) : Response := respond do
  let e ← Experiment.conduct .standard {} (← readProblem host path)
  let fingerprint := e.fingerprint
  let lines := (List.range runs).map fun i =>
    "  Run " ++ writeNat (i + 1) ++ ": " ++ fingerprint ++ " ="
  return { output := linesText (
    ["Reference: " ++ fingerprint] ++ lines ++ ["✓ " ++ writeNat runs ++ " runs identical"]) }

/-- The response to a command. -/
def perform (host : Host) : Command → Response
  | .run path config => runProblem host path config
  | .validate path config => validateProblem host path config
  | .verify path runs => compareRuns host path runs
  | .modules => { output := Library.standard.listing }
  | .help => { output := helpText }
  | .version => { output := versionText ++ "\n" }

/-- The response to an invocation; a notice comes before the rest. -/
def answer (host : Host) (i : Invocation) : Response :=
  let r := perform host i.command
  match i.notice with
  | some notice => { r with errors := notice ++ "\n" ++ r.errors }
  | none => r

end PhysicsLab.CommandLine
