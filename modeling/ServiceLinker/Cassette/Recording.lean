import ServiceLinker.Cassette.Basic
import ServiceLinker.FileSystem.Basic

/-!
# Recording calls

A recording file system answers as the one below it does and appends every answered call to a
cassette. A call is recorded by its path; of a written text only the size is kept. The outcome of
a call that may fail is an object with one field, which tells success from failure.
-/

namespace ServiceLinker

namespace Interaction

/-- The output of a call that may fail. -/
def outcome (value : α → Json) : Except String α → Json
  | .ok a => .object [(successKey, value a)]
  | .error reason => .object [(failureKey, .text reason)]

end Interaction

namespace Request

/-- The port that all requests belong to. -/
def port : String := "fs"

/-- The name of a request. -/
def method : Request → String
  | .walkFiles _ => "walk_files"
  | .readText _ => "read_to_string"
  | .write .. => "write"
  | .exists _ => "exists"

/-- The arguments of a request as they are recorded. -/
def input : Request → Json
  | .walkFiles path | .readText path | .exists path => .object [("path", .text path)]
  | .write path text => .object [("bytes", .int text.utf8ByteSize), ("path", .text path)]

def output : (r : Request) → r.Answer → Json
  | .walkFiles _, a => Interaction.outcome (fun paths => .list (paths.map .text)) a
  | .readText _, a => Interaction.outcome .text a
  | .write .., a => Interaction.outcome (fun _ => .null) a
  | .exists _, a => .bool a

end Request

/-- A file system that records its calls on a cassette. -/
def FileSystem.recording {σ : Type} (fs : FileSystem σ) : FileSystem (σ × Cassette) where
  answer r t :=
    match fs.answer r t.1 with
    | (.ok a, s) => (.ok a, (s, t.2.push Request.port r.method r.input (r.output a)))
    | (.error h, s) => (.error h, (s, t.2))

namespace Script

/-- The calls of a script are recorded behind those of a cassette. -/
def recorded {α : Type} (c : Cassette) : Script α → Script (α × Cassette)
  | done a => done (a, c)
  | ask r next => ask r fun a =>
    (next a).recorded (c.push Request.port r.method r.input (r.output a))
  | note e next => note e (next.recorded c)

/-- Recording changes nothing about a run. -/
theorem run_recording {σ α : Type} (fs : FileSystem σ) (x : Script α) (s : σ)
    (c : Cassette) :
    (x.run fs.recording (s, c)).result = (x.run fs s).result ∧
      (x.run fs.recording (s, c)).state.1 = (x.run fs s).state ∧
      (x.run fs.recording (s, c)).log = (x.run fs s).log := by
  induction x generalizing s c with
  | done a => exact ⟨rfl, rfl, rfl⟩
  | ask r next ih =>
    simp only [Script.run, FileSystem.recording]
    rcases fs.answer r s with ⟨_ | a, s'⟩
    · exact ⟨rfl, rfl, rfl⟩
    · exact ih a s' _
  | note e next ih =>
    obtain ⟨h1, h2, h3⟩ := ih s c
    exact ⟨h1, h2, congrArg (e :: ·) h3⟩

/-- A script whose calls are recorded does what the script does on a recording file system. -/
theorem run_recorded {σ α : Type} (fs : FileSystem σ) (x : Script α) (s : σ) (c : Cassette) :
    (x.recorded c).run fs s =
      let o := x.run fs.recording (s, c)
      ⟨o.result.map (·, o.state.2), o.state.1, o.log⟩ := by
  induction x generalizing s c with
  | done a => rfl
  | ask r next ih =>
    simp only [recorded, Script.run, FileSystem.recording]
    rcases fs.answer r s with ⟨_ | a, s'⟩
    · rfl
    · exact ih a s' _
  | note e next ih =>
    simp only [recorded, Script.run]
    rw [ih s c]

end Script

end ServiceLinker
