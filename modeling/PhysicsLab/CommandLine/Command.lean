import PhysicsLab.Number.Binary
import PhysicsLab.Number.Numeral
import PhysicsLab.Text.Search

/-!
# Commands

The commands that can be given on a command line.  A command line that is not understood asks for
help, with a notice about what is wrong.  An option is looked for anywhere among the arguments, and
its value is the argument behind it.
-/

namespace PhysicsLab.CommandLine

open PhysicsLab.Number

/-- What is to be done. -/
inductive Command where
  | run (problem : String) (config : Option String)
  | validate (problem : String) (config : Option String)
  | verify (problem : String) (runs : Nat)
  | modules
  | help
  | version
  deriving DecidableEq

/-- A command line that has been understood. -/
structure Invocation where
  command : Command
  logLevel : Option String := none
  /-- What is wrong with the command line. -/
  notice : Option String := none
  deriving DecidableEq

/-- The argument behind the first occurrence of an option. -/
def optionValue? (option : String) (args : List String) : Option String :=
  (args.dropWhile fun a => a != option)[1]?

/-- Whether an argument is an option. -/
def isOption (arg : String) : Bool := ['-', '-'].isPrefixOf arg.toList

/-- The number of runs where none is given. -/
def usualRuns : Nat := 3

/-- The number of runs to compare, two at least. -/
def runsOf (args : List String) : Nat :=
  let stated := (optionValue? "--runs" args).bind fun text => countUpTo? countLimit text.toList
  (stated.filter fun n => 2 ≤ n).getD usualRuns

/-- The command with the problem that is named behind it, or else help with a notice. -/
def withProblem (name : String) (args : List String) (command : String → Command) :
    Command × Option String :=
  match args[2]? with
  | some path =>
    if isOption path then missing else (command path, none)
  | none => missing
where
  /-- Help about a command without a problem. -/
  missing : Command × Option String :=
    (.help, some ("Error: '" ++ name ++ "' command requires a problem path"))

/-- The command of some arguments, the name of the program first, with a notice if they are not
understood. -/
def commandOf (args : List String) : Command × Option String :=
  let config := optionValue? "--config" args
  match args[1]? with
  | none => (.help, none)
  | some name =>
    if name = "run" then withProblem name args fun path => .run path config
    else if name = "validate" then withProblem name args fun path => .validate path config
    else if name = "verify" then withProblem name args fun path => .verify path (runsOf args)
    else if name = "modules" then (.modules, none)
    else if ["-h", "--help", "help"].contains name then (.help, none)
    else if ["-V", "--version", "version"].contains name then (.version, none)
    else (.help, some ("Unknown command: " ++ name))

/-- What some arguments ask for, the name of the program first. -/
def invocationOf (args : List String) : Invocation :=
  let (command, notice) := commandOf args
  { command, logLevel := optionValue? "--log-level" args, notice }

end PhysicsLab.CommandLine
