import ServiceLinker.Document
import ServiceLinker.Timestamp

/-!
# Recorded runs

A cassette holds the calls of one run in the order in which they were made, under a label, with
the moment of the recording and the directory that was linked. Calls are numbered from zero.
-/

namespace ServiceLinker

/-- One recorded call of a port. -/
structure Interaction where
  seq : Nat
  port : String
  method : String
  input : Json
  output : Json

/-- A recorded run. -/
structure Cassette where
  name : String
  toolVersion : String
  recordedAt : Timestamp
  sourceRoot : String
  interactions : List Interaction

namespace Interaction

/-- The key under which the output of a failed call lists its reason. -/
def failureKey : String := "err"

/-- The key under which the output of a successful call lists its value. -/
def successKey : String := "ok"

/-- The call failed. -/
def isFailure (x : Interaction) : Bool := (x.output.field? failureKey).isSome

/-- Equality of all parts. -/
def same (x y : Interaction) : Bool :=
  x.seq == y.seq && x.port == y.port && x.method == y.method && x.input.same y.input &&
    x.output.same y.output

end Interaction

namespace Cassette

/-- The version of the linker that writes cassettes. -/
def currentVersion : String := "0.1.0"

/-- A cassette without calls. -/
def start (name sourceRoot : String) (recordedAt : Timestamp) : Cassette :=
  ⟨name, currentVersion, recordedAt, sourceRoot, []⟩

/-- Appends a call, numbered by its place. -/
def push (c : Cassette) (port method : String) (input output : Json) : Cassette :=
  { c with interactions := c.interactions ++ [⟨c.interactions.length, port, method, input, output⟩] }

@[simp] theorem length_push (c : Cassette) (port method : String) (input output : Json) :
    (c.push port method input output).interactions.length = c.interactions.length + 1 := by
  simp [push]

/-- Equality of all parts. -/
def same (c d : Cassette) : Bool :=
  c.name == d.name && c.toolVersion == d.toolVersion && c.recordedAt == d.recordedAt &&
    c.sourceRoot == d.sourceRoot && c.interactions.length == d.interactions.length &&
    (c.interactions.zip d.interactions).all fun p => p.1.same p.2

end Cassette

/-! ## Recorded runs as documents -/

variable {ν : Type}

namespace Interaction

def fieldNames : List String := ["seq", "port", "method", "input", "output"]

/-- A call as a value. -/
def toJson (x : Interaction) : Json :=
  .object [("seq", .int x.seq), ("port", .text x.port), ("method", .text x.method),
    ("input", x.input), ("output", x.output)]

/-- A call read from a document, within `depth` collections. -/
def read? (F : DocumentFormat ν) (depth : Nat) (v : ν) : Option Interaction := do
  let fields ← F.record? fieldNames v
  let seq ← fields.required "seq" F.natural?
  let port ← fields.required "port" F.text?
  let method ← fields.required "method" F.text?
  let input ← fields.required "input" (F.json? (depth + 1))
  let output ← fields.required "output" (F.json? (depth + 1))
  pure ⟨seq, port, method, input, output⟩

end Interaction

namespace Cassette

def fieldNames : List String :=
  ["name", "tool_version", "recorded_at", "source_root", "interactions"]

/-- A recorded run as a value. -/
def toJson (c : Cassette) : Json :=
  .object [("name", .text c.name), ("tool_version", .text c.toolVersion),
    ("recorded_at", .text c.recordedAt.toText), ("source_root", .text c.sourceRoot),
    ("interactions", .list (c.interactions.map Interaction.toJson))]

/-- A recorded run read from a document. The version may be left out. -/
def read? (F : DocumentFormat ν) (v : ν) : Option Cassette := do
  let fields ← F.record? fieldNames v
  let name ← fields.required "name" F.text?
  let toolVersion ← fields.withDefault "tool_version" F.text? ""
  let recordedAt ← fields.required "recorded_at" fun v => (F.text? v).bind Timestamp.ofText?
  let sourceRoot ← fields.required "source_root" F.text?
  let interactions ← fields.required "interactions" (F.list? (Interaction.read? F 2))
  pure ⟨name, toolVersion, recordedAt, sourceRoot, interactions⟩

end Cassette

end ServiceLinker
