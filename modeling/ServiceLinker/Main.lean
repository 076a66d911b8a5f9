import Std.Time.DateTime.Timestamp
import ServiceLinker.FileSystem.Tree
import ServiceLinker.Program

/-!
# Running the program

The requests of the program are answered from the disk, its messages go to the error output, and
the exit code tells whether the command succeeded.
-/

namespace ServiceLinker.Main

/-- The wording of a failed access. -/
def reason : IO.Error → String
  | .alreadyExists _ code details | .invalidArgument _ code details
  | .permissionDenied _ code details | .resourceExhausted _ code details
  | .inappropriateType _ code details | .noSuchThing _ code details
  | .interrupted _ code details
  | .otherError code details | .resourceBusy code details | .resourceVanished code details
  | .unsupportedOperation code details | .hardwareFault code details
  | .unsatisfiedConstraints code details | .illegalOperation code details
  | .protocolError code details | .timeExpired code details =>
    details ++ " (os error " ++ toString code.toNat ++ ")"
  | .noFileOrDirectory .. => TreeError.notFound.message
  | .unexpectedEof => "unexpected end of file"
  | .userError text => text

/-- An access, or the wording of its failure. -/
def attempt (x : IO α) : IO (Except String α) := do
  try
    let a ← x
    pure (.ok a)
  catch e => pure (.error (reason e))

def readContent (path : String) : IO Content := do
  let data ← IO.FS.readBinFile path
  pure (.ofBytes data.toList)

/-- The text of a file. -/
def readText (path : String) : IO String := do
  match ← readContent path with
  | .text s => pure s
  | .bytes _ => throw (IO.userError TreeError.notText.message)

/-- Shows a message on the error output. -/
def printEntry (entry : LogEntry) : IO Unit :=
  IO.eprintln ("[" ++ entry.level.label ++ "] " ++ entry.message)

/-- The files below a directory, the entries of each directory in the order of their names. Below
the directory itself, an entry that cannot be read is left out. -/
partial def filesBelow (root : String) : IO (List String) := do
  let entries ← (← IO.FS.realPath root).readDir
  let sorted := entries.toList.mergeSort fun a b => a.fileName ≤ b.fileName
  let below ← sorted.mapM fun entry => do
    let path := Tree.listedPath root [entry.fileName]
    let listed ← attempt do
      match (← entry.path.symlinkMetadata).type with
      | .file => pure [path]
      | .dir => filesBelow path
      | _ => pure []
    match listed with
    | .ok files => pure files
    | .error reason =>
      printEntry ⟨.warn, "Skipping unreadable entry: IO error for operation on " ++ path ++ ": " ++
        reason⟩
      pure []
  pure below.flatten

/-- Writes a file and makes the directories above it. -/
def writeText (path text : String) : IO Unit := do
  match Path.parent? path with
  | some parent => if !parent.isEmpty then IO.FS.createDirAll parent
  | none => pure ()
  IO.FS.writeFile path text

/-- Answers a request from the disk. -/
def answer : (request : Request) → IO request.Answer
  | .walkFiles root => attempt (filesBelow root)
  | .readText path => attempt (readText path)
  | .write path text => attempt (writeText path text)
  | .exists path => do
    match ← attempt (IO.FS.realPath path) with
    | .ok _ => pure true
    | .error _ => pure false

/-- The message is shown. -/
def isShown (verbose : Bool) (entry : LogEntry) : Bool := verbose || entry.level = .warn

/-- Runs a script on the disk. -/
def interpret (verbose : Bool) : Script α → IO α
  | .done a => pure a
  | .ask request next => do
    let a ← answer request
    interpret verbose (next a)
  | .note entry next => do
    if isShown verbose entry then printEntry entry
    interpret verbose next

/-- The environment, as far as the program may look at it. -/
def environment (file : Option String) : IO Environment := do
  let names := Program.variableNames ++ EnvironmentFile.mentioned (file.getD "")
  let values ← names.mapM fun name => do
    let value ← IO.getEnv name
    pure (name, value)
  pure fun name => (values.lookup name).join

/-- The text of the environment file, if there is one. -/
def environmentFile : IO (Option String) := do
  match ← attempt (readContent Program.environmentFileName) with
  | .ok content => pure (some content.leadingText)
  | .error _ => pure none

def now : IO Timestamp := do
  let t ← Std.Time.Timestamp.now
  pure (.ofEpoch t.toNanosecondsSinceUnixEpoch.val.toNat)

/-- Runs a command and prints what it has to say. -/
def run (invocation : CommandLine.Invocation) : IO UInt32 := do
  let file ← environmentFile
  let env ← environment file
  let outcome ← interpret invocation.verbose (Program.run invocation file env (← now))
  outcome.output.forM IO.println
  outcome.errorOutput.forM IO.eprintln
  match outcome.result with
  | .ok () => pure 0
  | .error e =>
    IO.eprintln e.message
    pure 1

end ServiceLinker.Main

/-- Runs the program. -/
def main (arguments : List String) : IO UInt32 := do
  match ServiceLinker.CommandLine.read arguments with
  | .error e =>
    IO.eprintln e.message
    pure 1
  | .ok invocation => ServiceLinker.Main.run invocation
