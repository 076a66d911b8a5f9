import ServiceLinker.Cassette.Recording
import ServiceLinker.Cassette.Replayer

/-!
# Replaying a cassette

A replaying file system answers requests from the recorded outputs and looks at nothing but their
names. Once a request could not be served no later one is. A recorded output of the wrong shape is
a failure of the request, except that an existence test has no way to fail and breaks off.
-/

namespace ServiceLinker

/-- A replayer that may have missed a call. -/
structure Replay where
  replayer : Replayer
  /-- A request could not be served. -/
  diverged : Bool

namespace Replay

/-- A replay of a cassette from its start. -/
def ofCassette (c : Cassette) : Replay := ⟨.ofCassette c, false⟩

/-- The number of calls that were not served yet. -/
def remaining (p : Replay) : Nat := p.replayer.remaining

/-- The recorded output for a request. -/
def nextOutput (p : Replay) (r : Request) : Except Halt Json × Replay :=
  if p.diverged then (.error .diverged, p)
  else
    match p.replayer.next Request.port r.method with
    | (.ok x, replayer) => (.ok x.output, { p with replayer := replayer })
    | (.error h, replayer) => (.error h, ⟨replayer, true⟩)

/-- The reason given when a recorded failure has none. -/
def unknownReason : String := "unknown error"

/-- The recorded failure of a call. -/
def failure? (output : Json) : Option String :=
  (output.field? Interaction.failureKey).map fun reason => reason.text?.getD unknownReason

/-- The answer that a recorded output stands for; a value may also stand by itself. -/
def answerOf (method expected : String) (read? : Json → Option α) (output : Json) :
    Except String α :=
  match failure? output with
  | some reason => .error reason
  | none =>
    match read? ((output.field? Interaction.successKey).getD output) with
    | some a => .ok a
    | none =>
      .error (Request.port ++ "::" ++ method ++ ": failed to deserialize: expected " ++ expected)

/-- The answer to a request that a recorded output stands for. -/
def decode : (r : Request) → Json → Except Halt r.Answer
  | .walkFiles path, output =>
    .ok (answerOf (Request.walkFiles path).method "a list of strings" Json.texts? output)
  | .readText path, output =>
    .ok (answerOf (Request.readText path).method "a string" Json.text? output)
  | .write .., output =>
    .ok (match failure? output with
      | some reason => .error reason
      | none => .ok ())
  | .exists _, output =>
    match output.bool? with
    | some b => .ok b
    | none => .error .notBoolean

/-- The file system that answers from a recording. -/
def fileSystem : FileSystem Replay where
  answer r p :=
    match p.nextOutput r with
    | (.ok output, p) => (decode r output, p)
    | (.error h, p) => (.error h, p)

/-- A recorded answer is decoded to itself. -/
@[simp] theorem decode_output (r : Request) (a : r.Answer) : decode r (r.output a) = .ok a := by
  cases r with
  | walkFiles path =>
    cases a with
    | error e => rfl
    | ok paths =>
      have h : Json.texts? (.list (paths.map .text)) = some paths := by
        simp only [Json.texts?]
        induction paths with
        | nil => rfl
        | cons p ps ih => simp [List.mapM_cons, Json.text?, ih]
      have hs : ((Json.object [(Interaction.successKey, Json.list (paths.map .text))]).field?
          Interaction.successKey) = some (Json.list (paths.map .text)) := rfl
      have hf : failure? (Json.object [(Interaction.successKey, Json.list (paths.map .text))]) =
          none := rfl
      simp only [decode, Request.output, Interaction.outcome, answerOf, hs, hf, Option.getD_some, h]
  | readText path => cases a <;> rfl
  | write path text => cases a <;> rfl
  | «exists» path => rfl

end Replay

end ServiceLinker
