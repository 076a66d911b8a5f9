import ServiceLinker.Cassette.Basic
import ServiceLinker.FileSystem.Basic
import ServiceLinker.Yaml.Format
import ServiceLinker.Yaml.Printer

/-!
# Cassette files

A cassette is kept in a file as one YAML document.
-/

namespace ServiceLinker

namespace Cassette

def toText (c : Cassette) : String := Yaml.print c.toJson

def ofText? (text : String) : Option Cassette := (Yaml.rootOfText? text).bind (read? Yaml.format)

/-- Why a cassette cannot be loaded. -/
inductive LoadError where
  | unreadable (path reason : String)
  | malformed (path : String)
  deriving DecidableEq, Repr

/-- The wording of a failed load. -/
def LoadError.message : LoadError → String
  | .unreadable path reason => "Failed to read cassette file " ++ path ++ ": " ++ reason
  | .malformed path => "Failed to parse cassette file " ++ path ++ ": not a cassette"

def load (path : String) : Script (Except LoadError Cassette) := do
  match ← Script.readText path with
  | .error reason => pure (.error (.unreadable path reason))
  | .ok text =>
    match ofText? text with
    | none => pure (.error (.malformed path))
    | some c => pure (.ok c)

def save (c : Cassette) (path : String) : Script (Except String Unit) :=
  Script.write path c.toText

end Cassette

end ServiceLinker
