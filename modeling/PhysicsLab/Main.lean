import PhysicsLab.CommandLine

/-!
# The program

Reads the files that a command names, and writes what the command answers.  Numbers of a document
are read as the nearest doubles.
-/

open PhysicsLab.CommandLine

/-- The files that a command may read. -/
def filesOf : Command → List String
  | .run problem config => problem :: config.toList
  | .validate problem config => problem :: config.toList
  | .verify problem _ => [problem]
  | _ => []

/-- The text of a file, if it can be read. -/
def readText? (path : String) : IO (Option String) :=
  try
    return some (← IO.FS.readFile path)
  catch _ => return none

/-- Carries out the command that the arguments give. -/
def main (args : List String) : IO UInt32 := do
  let invocation := invocationOf ("physir" :: args)
  let files ← (filesOf invocation.command).mapM fun path => return (path, ← readText? path)
  let host : Host := {
    files := fun path => (files.lookup path).join
    convert := PhysicsLab.Json.Numeral.toFloat }
  let response := answer host invocation
  IO.print response.output
  IO.eprint response.errors
  return response.code.toUInt32
