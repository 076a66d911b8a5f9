import ServiceLinker.Bundle.Collection
import ServiceLinker.Bundle.Writing
import ServiceLinker.Config.Layers
import ServiceLinker.Linkage.Basic
import ServiceLinker.Report.Format

/-!
# Commands

The command `link` reports the links of a source tree; the command `bundle` writes a bundle for
every resolved record. Both link the tree under the settings of all layers first.
-/

namespace ServiceLinker

/-- A command with its arguments. -/
inductive Command where
  | link (options : LinkOptions) (format : ReportFormat) (output : Option String) (strict : Bool)
  | bundle (options : LinkOptions) (out : String)
  deriving DecidableEq, Repr

/-- Why a command fails. -/
inductive CommandError where
  /-- The tree cannot be linked. -/
  | link (cause : LinkError)
  /-- The report cannot be written. -/
  | reportUnwritable (path reason : String)
  /-- A bundle cannot be written. -/
  | bundleUnwritable (failure : WriteFailure)
  /-- Not every descriptor is linked, although that was asked for. -/
  | incomplete (partialCount skippedCount : Nat) (root : String)
  /-- The recording of the run cannot be saved. -/
  | recordingUnwritable (reason : String)
  deriving DecidableEq, Repr

/-- The wording of a failed write. -/
def WriteFailure.message (f : WriteFailure) : String :=
  "failed to write " ++ f.path ++ ": " ++ f.reason

/-- The wording of a failed command. -/
def CommandError.message : CommandError → String
  | .link cause => cause.message
  | .reportUnwritable path reason => "failed to write report to " ++ path ++ ": " ++ reason
  | .bundleUnwritable failure => failure.message
  | .incomplete partialCount skippedCount root =>
    toString partialCount ++ " partial, " ++ toString skippedCount ++
      " skipped: not every descriptor under " ++ root ++ " is fully linked"
  | .recordingUnwritable reason => "Failed to write fs cassette: " ++ reason

/-- What a command did: the lines that it printed, the report that it made, the files that it
wrote bundles to, and how it ended. -/
structure CommandOutcome where
  output : List String
  errorOutput : List String
  report : Option LinkReport
  written : List String
  result : Except CommandError Unit

namespace CommandOutcome

/-- A command that failed before it had a report. -/
def failed (e : LinkError) : CommandOutcome := ⟨[], [], none, [], .error (.link e)⟩

end CommandOutcome

namespace Command

/-- The options that both commands have. -/
def options : Command → LinkOptions
  | .link options .. => options
  | .bundle options _ => options

/-- The report of the tree under the settings of all layers. -/
def makeReport (options : LinkOptions) (env : Environment) :
    Script (Except LinkError LinkReport) := do
  match ← Config.resolve options env with
  | .error e => pure (.error e)
  | .ok c => linkTree options.root c

/-! ## Reporting -/

/-- How a reported run ends. -/
def verdict (root : String) (strict : Bool) (report : LinkReport) : Except CommandError Unit :=
  if strict && !report.isComplete then
    .error (.incomplete report.partialRecords.length report.skippedCount root)
  else .ok ()

/-- Prints a report, or writes it to a file. -/
def publish (options : LinkOptions) (format : ReportFormat) (output : Option String)
    (strict : Bool) (report : LinkReport) : Script CommandOutcome := do
  let text := report.render format
  match output with
  | none => pure ⟨[text], [], some report, [], verdict options.root strict report⟩
  | some path =>
    match ← Script.write path text with
    | .error reason =>
      pure ⟨[], [], some report, [], .error (.reportUnwritable path reason)⟩
    | .ok () =>
      pure ⟨["Report written to " ++ path], [], some report, [],
        verdict options.root strict report⟩

/-! ## Bundling -/

/-- The warning about a partial record. -/
def partialWarning (r : LinkedService) : String :=
  "Not bundled: " ++ r.serviceName ++ " (missing " ++
    ", ".intercalate (r.missing.map Relation.label) ++ ")"

def reportWarnings (report : LinkReport) : List String :=
  report.partialRecords.map partialWarning ++ report.diagnostics.map ("Warning: " ++ ·.message)

/-- The line about the number of bundles. -/
def writtenLine (count : Nat) (out : String) : String :=
  "Wrote " ++ toString count ++ " bundle" ++ (if count = 1 then "" else "s") ++ " to " ++ out

/-- Writes a bundle for every resolved record. -/
def handOver (options : LinkOptions) (out : String) (report : LinkReport) :
    Script CommandOutcome := do
  let warnings := reportWarnings report
  if report.resolved.isEmpty then
    pure ⟨["No linked services found under " ++ options.root ++ "."], warnings, some report, [],
      .ok ()⟩
  else
    let (bundles, diagnostics) ← report.bundleResolved
    let warnings := warnings ++ diagnostics.map ("Not bundled: " ++ ·.message)
    match ← ServiceBundle.writeAll out bundles with
    | .error e => pure ⟨[], warnings, some report, [], .error (.bundleUnwritable e)⟩
    | .ok paths =>
      pure ⟨paths.map ("  " ++ ·) ++ [writtenLine paths.length out], warnings, some report, paths,
        .ok ()⟩

def run (env : Environment) : Command → Script CommandOutcome
  | .link options format output strict => do
    match ← makeReport options env with
    | .error e => pure (.failed e)
    | .ok report => publish options format output strict report
  | .bundle options out => do
    match ← makeReport options env with
    | .error e => pure (.failed e)
    | .ok report => handOver options out report

end Command

end ServiceLinker
