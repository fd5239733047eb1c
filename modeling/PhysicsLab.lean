import PhysicsLab.Assembly
import PhysicsLab.CommandLine
import PhysicsLab.Conservation
import PhysicsLab.Convention
import PhysicsLab.Digest
import PhysicsLab.Dimension
import PhysicsLab.Domain
import PhysicsLab.Experiment
import PhysicsLab.Failure
import PhysicsLab.Fields
import PhysicsLab.Formula
import PhysicsLab.Graph
import PhysicsLab.Json
import PhysicsLab.Label
import PhysicsLab.Library
import PhysicsLab.Main
import PhysicsLab.Model
import PhysicsLab.Parameter
import PhysicsLab.Problem
import PhysicsLab.Proofs.Assembly.BodyIds
import PhysicsLab.Proofs.Assembly.Circularity
import PhysicsLab.Proofs.Assembly.Declarations
import PhysicsLab.Proofs.Assembly.EquationIds
import PhysicsLab.Proofs.Assembly.Evidence
import PhysicsLab.Proofs.Assembly.Layers
import PhysicsLab.Proofs.Assembly.Merging
import PhysicsLab.Proofs.Assembly.ModuleGraph
import PhysicsLab.Proofs.Assembly.Modules
import PhysicsLab.Proofs.Assembly.Provenance
import PhysicsLab.Proofs.Assembly.Resolved
import PhysicsLab.Proofs.Assembly.Runnable
import PhysicsLab.Proofs.Assembly.Symbols
import PhysicsLab.Proofs.Assembly.Tables
import PhysicsLab.Proofs.Dimension
import PhysicsLab.Proofs.Documents.Model
import PhysicsLab.Proofs.Documents.Problem
import PhysicsLab.Proofs.Exponents
import PhysicsLab.Proofs.Fields
import PhysicsLab.Proofs.Formula.Derivatives
import PhysicsLab.Proofs.Formula.Lexemes
import PhysicsLab.Proofs.Graph.DepthFirst
import PhysicsLab.Proofs.Graph.Layering
import PhysicsLab.Proofs.Graph.Layers
import PhysicsLab.Proofs.Graph.Reachability
import PhysicsLab.Proofs.Graph.Sweep
import PhysicsLab.Proofs.Json.Numeral
import PhysicsLab.Proofs.Json.RoundTrip
import PhysicsLab.Proofs.Library.Resolution
import PhysicsLab.Proofs.Number.Bits
import PhysicsLab.Proofs.Number.Exact
import PhysicsLab.Proofs.Number.Fraction
import PhysicsLab.Proofs.Number.Rounding
import PhysicsLab.Proofs.Number.Signed
import PhysicsLab.Proofs.Quantities
import PhysicsLab.Proofs.Simulation.Bodies
import PhysicsLab.Proofs.Simulation.Budget
import PhysicsLab.Proofs.Simulation.Ending
import PhysicsLab.Proofs.Simulation.Fingerprint
import PhysicsLab.Proofs.Simulation.FirstStep
import PhysicsLab.Proofs.Simulation.Limit
import PhysicsLab.Proofs.Simulation.Replay
import PhysicsLab.Proofs.Simulation.Retrying
import PhysicsLab.Proofs.Simulation.Run
import PhysicsLab.Proofs.Simulation.Separation
import PhysicsLab.Proofs.Simulation.Stepping
import PhysicsLab.Proofs.Simulation.Trajectory
import PhysicsLab.Proofs.Text.Trimming
import PhysicsLab.Proofs.Text.Words
import PhysicsLab.Proofs.Units.Brackets
import PhysicsLab.Proofs.Units.Character
import PhysicsLab.Proofs.Units.Common
import PhysicsLab.Proofs.Units.Evaluation
import PhysicsLab.Proofs.Units.Grammar
import PhysicsLab.Proofs.Units.Joining
import PhysicsLab.Proofs.Units.Operands
import PhysicsLab.Proofs.Units.Overlong
import PhysicsLab.Proofs.Units.Reading
import PhysicsLab.Proofs.Units.Rendering
import PhysicsLab.Proofs.Units.Steps
import PhysicsLab.Proofs.Validation.Conversion
import PhysicsLab.Proofs.Validation.Dependency
import PhysicsLab.Proofs.Validation.Equations
import PhysicsLab.Proofs.Validation.Findings
import PhysicsLab.Proofs.Validation.Readiness
import PhysicsLab.Proofs.Verification.Moves
import PhysicsLab.Proofs.Verification.Pairing
import PhysicsLab.Proofs.Verification.Scaling
import PhysicsLab.Proofs.Verification.Score
import PhysicsLab.Quantity
import PhysicsLab.Settings
import PhysicsLab.Table
import PhysicsLab.Validation
import PhysicsLab.Vec3
import PhysicsLab.Verification
import PhysicsLab.Yaml
