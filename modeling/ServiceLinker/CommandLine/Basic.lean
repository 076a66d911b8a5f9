import ServiceLinker.Cassette.Basic
import ServiceLinker.Command.Basic

/-!
# Parameters of the command line

The parameters of the commands with their spellings, the values that they take, and the ways in
which a command line can be wrong.
-/

namespace ServiceLinker.CommandLine

/-- Why a command line names no command to run. -/
inductive UsageError where
  /-- The help text was asked for. -/
  | helpRequested
  /-- The version was asked for. -/
  | versionRequested
  /-- There are no arguments at all. -/
  | nothingGiven
  /-- There are flags, but no command. -/
  | commandMissing
  /-- A word is no command. -/
  | unknownCommand (word : String)
  /-- An argument belongs to no parameter. -/
  | unknownArgument (argument : String)
  /-- A parameter that must be given is not. -/
  | parameterMissing
  /-- A parameter has no value, or one of the wrong form. -/
  | unusableValue
  /-- A value is refused for what it means. -/
  | refusedValue (cause : LinkError)
  /-- A parameter is given twice. -/
  | repeated
  /-- A flag is given a value. -/
  | valueOfFlag (argument : String)
  deriving DecidableEq, Repr

/-- The wording of a usage error. -/
def UsageError.message : UsageError → String
  | .helpRequested =>
    "usage: svclink [-v] link ROOT [--config FILE] [--ambiguity POLICY] [--format FORMAT] " ++
      "[-o FILE] [--strict]\n" ++
      "       svclink [-v] bundle ROOT --out DIR [--config FILE] [--ambiguity POLICY]"
  | .versionRequested => "svclink " ++ Cassette.currentVersion
  | .nothingGiven | .commandMissing => "a command is required: link, bundle or help"
  | .unknownCommand word => "unrecognized command " ++ Text.quote word
  | .unknownArgument argument => "unexpected argument " ++ Text.quote argument
  | .parameterMissing => "a required argument is missing"
  | .unusableValue => "an argument has no usable value"
  | .refusedValue cause => cause.message
  | .repeated => "an argument is given more than once"
  | .valueOfFlag argument => "no value is expected for " ++ Text.quote argument

inductive Parameter where
  | root
  | config
  | ambiguity
  | format
  | output
  | out
  | strict
  | verbose
  | help
  | version
  deriving DecidableEq, Repr

namespace Parameter

/-- The name behind two hyphens. The root is given by its place only. -/
def longName? : Parameter → Option String
  | .root => none
  | .config => some "config"
  | .ambiguity => some "ambiguity"
  | .format => some "format"
  | .output => some "output"
  | .out => some "out"
  | .strict => some "strict"
  | .verbose => some "verbose"
  | .help => some "help"
  | .version => some "version"

/-- The letter behind a single hyphen. -/
def letter? : Parameter → Option Char
  | .output => some 'o'
  | .verbose => some 'v'
  | .help => some 'h'
  | .version => some 'V'
  | _ => none

def hasValue : Parameter → Bool
  | .root | .config | .ambiguity | .format | .output | .out => true
  | .strict | .verbose | .help | .version => false

/-- Checks a value of a parameter: paths must not be empty, formats and policies must be known. -/
def check (p : Parameter) (value : String) : Except UsageError Unit :=
  match p with
  | .root | .config | .output | .out => if value.isEmpty then .error .unusableValue else .ok ()
  | .format => if (ReportFormat.ofTag? value).isNone then .error .unusableValue else .ok ()
  | .ambiguity => (AmbiguityPolicy.ofText value).mapError UsageError.refusedValue |>.map fun _ => ()
  | .strict | .verbose | .help | .version => .ok ()

end Parameter

/-- What may stand on a part of the command line: parameters, and words that end the part. -/
structure Grammar where
  parameters : List Parameter
  commands : List String
  deriving Repr

namespace Grammar

/-- The words that name a command. -/
def commandWords : List String := ["link", "bundle", "help"]

/-- The part before the command. -/
def front : Grammar := ⟨[.verbose, .help, .version], commandWords⟩

/-- The part of the command `link`. -/
def link : Grammar :=
  ⟨[.root, .config, .ambiguity, .format, .output, .strict, .verbose, .help], []⟩

/-- The part of the command `bundle`. -/
def bundle : Grammar := ⟨[.root, .config, .ambiguity, .out, .verbose, .help], []⟩

def withName? (g : Grammar) (name : String) : Option Parameter :=
  g.parameters.find? (·.longName? = some name)

def withLetter? (g : Grammar) (c : Char) : Option Parameter :=
  g.parameters.find? (·.letter? = some c)

end Grammar

end ServiceLinker.CommandLine
