import ServiceLinker.Cassette.File
import ServiceLinker.Cassette.Recording
import ServiceLinker.Command.Basic

/-!
# Sessions

A session runs a script. If the environment names a cassette, the calls of the script are recorded
and saved there at the end, even if the script reports a failure.
-/

namespace ServiceLinker

/-- A cassette that is being recorded, and where it will be saved. -/
structure Recorder where
  path : String
  cassette : Cassette

namespace Recorder

/-- The name of a cassette that records a session. -/
def sessionName : String := "svclink-session"

def ofSession (path sourceRoot : String) (now : Timestamp) : Recorder :=
  ⟨path, .start sessionName sourceRoot now⟩

/-- Saves the cassette and returns its path. -/
def finish (r : Recorder) : Script (Except String String) := do
  match ← r.cassette.save r.path with
  | .error reason => pure (.error reason)
  | .ok () =>
    Script.log .debug ("Wrote " ++ toString r.cassette.interactions.length ++
      " interactions to " ++ r.path)
    pure (.ok r.path)

end Recorder

namespace Session

/-- The variable that names a cassette to record. -/
def recordVariable : String := "SVCLINK_RECORD"

/-- The recorder that the environment asks for. -/
def recorder? (env : Environment) (sourceRoot : String) (now : Timestamp) : Option Recorder :=
  match env recordVariable with
  | some path => if path.isEmpty then none else some (.ofSession path sourceRoot now)
  | none => none

/-- Runs a script, and saves the recording if there is one. The path of a saved cassette is
returned beside the value of the script. -/
def run {α : Type} (recorder : Option Recorder) (x : Script α) :
    Script (α × Except CommandError (Option String)) :=
  match recorder with
  | none => do
    let a ← x
    pure (a, .ok none)
  | some r => do
    let (a, cassette) ← x.recorded r.cassette
    match ← Recorder.finish ⟨r.path, cassette⟩ with
    | .error reason => pure (a, .error (.recordingUnwritable reason))
    | .ok path => pure (a, .ok (some path))

/-- The outcome of a command after its recording was saved, or could not be. -/
def settle (o : CommandOutcome) : Except CommandError (Option String) → CommandOutcome
  | .ok none => o
  | .ok (some path) =>
    { o with errorOutput := o.errorOutput ++ ["Recording saved to: " ++ path] }
  | .error e => { o with result := .error e }

/-- Runs a command in a session of its own. -/
def runCommand (env : Environment) (now : Timestamp) (c : Command) : Script CommandOutcome := do
  let (outcome, saved) ← run (recorder? env c.options.root now) (c.run env)
  pure (settle outcome saved)

end Session

end ServiceLinker
