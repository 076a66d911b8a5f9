import ServiceLinker.Config.Basic
import ServiceLinker.FileSystem.Basic
import ServiceLinker.Yaml.Format

/-!
# Layers of settings

Settings come from the defaults, a file, the environment and the command line, each overriding the
ones before. The values of a file must be valid by themselves, and those that the environment
leaves must be valid again.
-/

namespace ServiceLinker

/-- The values of environment variables. -/
abbrev Environment := String → Option String

/-- What the command line says about settings. -/
structure LinkOptions where
  root : String
  config : Option String
  ambiguity : Option AmbiguityPolicy
  deriving DecidableEq, Repr

namespace Config

/-! ## Files -/

/-- The settings in a document, which may be invalid. -/
def parse? (text : String) : Option Config := (Yaml.rootOfText? text).bind (read? Yaml.format)

/-- The settings in a document. -/
def ofText (text : String) : Except LinkError Config :=
  match parse? text with
  | none => .error (.config "not a document of settings")
  | some c =>
    match c.validate with
    | .error e => .error e
    | .ok () => .ok c

/-- The settings in a file. -/
def load (path : String) : Script (Except LinkError Config) := do
  match ← Script.readText path with
  | .error reason => pure (.error (.config ("cannot read " ++ path ++ ": " ++ reason)))
  | .ok text => pure (ofText text)

/-! ## Environment variables -/

def descriptorVariable : String := "SVCLINK_DESCRIPTOR_EXT"

def declarationVariable : String := "SVCLINK_DECLARATION_EXT"

def markerVariable : String := "SVCLINK_CONTRACT_MARKER"

/-- The variable of the ambiguity policy. -/
def ambiguityVariable : String := "SVCLINK_AMBIGUITY"

/-- The policy that the environment asks for, or else a given one. -/
def environmentPolicy (env : Environment) (otherwise : AmbiguityPolicy) :
    Except LinkError AmbiguityPolicy :=
  match env ambiguityVariable with
  | some text => AmbiguityPolicy.ofText text
  | none => .ok otherwise

/-- Settings overlaid with the variables that are set. -/
def overlay (env : Environment) (c : Config) : Except LinkError Config :=
  match environmentPolicy env c.ambiguity with
  | .error e => .error e
  | .ok ambiguity =>
    let c : Config :=
      ⟨(env descriptorVariable).getD c.descriptorExtension,
        (env declarationVariable).getD c.declarationExtension,
        (env markerVariable).getD c.contractMarker, ambiguity⟩
    match c.validate with
    | .error e => .error e
    | .ok () => .ok c

/-! ## All layers -/

/-- The settings of the lowest layers: those of a file if one is given, or else the defaults. -/
def base : Option String → Script (Except LinkError Config)
  | some path => load path
  | none => pure (.ok default)

/-- The settings of a run. -/
def resolve (options : LinkOptions) (env : Environment) : Script (Except LinkError Config) := do
  match ← base options.config with
  | .error e => pure (.error e)
  | .ok c =>
    match c.overlay env with
    | .error e => pure (.error e)
    | .ok c => pure (.ok { c with ambiguity := options.ambiguity.getD c.ambiguity })

end Config

end ServiceLinker
