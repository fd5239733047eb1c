import PhysicsLab.Failure
import PhysicsLab.Settings.Document
import PhysicsLab.Yaml.Reader

/-!
# Settings files

The settings of a run are read from a YAML file.  A file may leave out whatever it does not change,
even everything; a key that is no section of the file is refused, an unknown key inside a section is
passed over.
-/

namespace PhysicsLab.RunSettings

open Fields Scalars

/-- The sections of a settings file. -/
def names : Fields.Names := plainNames ["schema_version", "simulation", "output", "thresholds"]

/-- The sections that are given, all of which have to be known. -/
def sections? (d : Yaml.Document) : Option (Fields Yaml) := do
  let members ← d.members? d.root
  if members.all fun m => (nameOf? names m.1).isSome then collect? names members else none

/-- A section, read from its fields. -/
def section? {α : Type} (d : Yaml.Document) (names : Fields.Names)
    (read : Fields Yaml → Option α) (v : Yaml) : Option α :=
  (d.fields? names v).bind read

/-- The settings of a file. -/
def ofYaml? (d : Yaml.Document) : Option RunSettings := do
  let fs ← sections? d
  return {
    schemaVersion := ← orElse? fs "schema_version" text? "1.0"
    simulation := ← orElse? fs "simulation"
      (section? d SimulationSettings.names (SimulationSettings.ofFields? {})) {}
    output := ← orElse? fs "output" (section? d OutputSettings.names OutputSettings.ofFields?) {}
    thresholds :=
      ← orElse? fs "thresholds" (section? d Thresholds.names Thresholds.ofFields?) {} }

/-- The settings of the text of a file, checked. -/
def load (text : String) : Except Failure RunSettings := do
  match (Yaml.parse? text).bind ofYaml? with
  | none => throw .yaml
  | some s =>
    s.check
    return s

end PhysicsLab.RunSettings
