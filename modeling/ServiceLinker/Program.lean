import ServiceLinker.Command.Session
import ServiceLinker.CommandLine.Reading
import ServiceLinker.EnvironmentFile

/-!
# The program

The program completes its environment from an environment file and runs the command that its
command line names in a session.
-/

namespace ServiceLinker.Program

/-- The name of the environment file in the working directory. -/
def environmentFileName : String := ".env"

/-- The variables that the program looks at, besides those that an environment file mentions. -/
def variableNames : List String :=
  [Session.recordVariable, Config.descriptorVariable, Config.declarationVariable,
    Config.markerVariable, Config.ambiguityVariable]

/-- The environment of a run. Variables that are set win over the file. -/
def environment (file : Option String) (env : Environment) : Environment :=
  match file with
  | some text => EnvironmentFile.load text env
  | none => env

/-- What a command line asks for, given the environment file and the time. -/
def run (invocation : CommandLine.Invocation) (file : Option String) (env : Environment)
    (now : Timestamp) : Script CommandOutcome :=
  Session.runCommand (environment file env) now invocation.command

end ServiceLinker.Program
