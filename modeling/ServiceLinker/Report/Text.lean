import ServiceLinker.Report.Basic

/-!
# Reports for people

A block per record, a block of diagnostics if there are any, and a closing line of counts.
-/

namespace ServiceLinker

/-- The heading under which a diagnostic of the run is listed. -/
def ErrorKind.heading : ErrorKind → String
  | .rootUnreadable | .fileUnreadable => "UNREADABLE"
  | .descriptorAttributeMissing => "SKIPPED"
  | .implementationNotFound | .interfaceNotFound => "MISSING"
  | .ambiguousMatch => "AMBIGUOUS"
  | .config => "CONFIG"

namespace LinkedService

/-- How a record shows its interface. -/
def interfaceText (r : LinkedService) : String :=
  match r.interfacePath, r.interfaceSource with
  | some path, some .contractFallback => path ++ " (by contract marker)"
  | some path, _ => path
  | none, _ => "not found"

/-- The lines of a record. -/
def lines (r : LinkedService) : List String :=
  ["[" ++ (if r.isResolved then "RESOLVED" else "PARTIAL") ++ "] " ++ r.serviceName ++
      " (" ++ r.qualifiedName ++ ")",
    "  Descriptor:     " ++ r.descriptorPath,
    "  Implementation: " ++ r.implementationPath.getD "not found",
    "  Interface:      " ++ r.interfaceText] ++
  r.diagnostics.map ("  - " ++ ·.message)

end LinkedService

namespace LinkReport

/-- The lines of the diagnostics of the run. -/
def diagnosticLines (r : LinkReport) : List String :=
  if r.diagnostics.isEmpty then []
  else
    "Diagnostics:" :: r.diagnostics.map (fun d => "  [" ++ d.kind.heading ++ "] " ++ d.message) ++
      [""]

/-- The counts that close a report. -/
def countsLine (r : LinkReport) : String :=
  toString r.resolved.length ++ " resolved, " ++ toString r.partialRecords.length ++
    " partial, " ++ toString r.skippedCount ++ " skipped."

def toText (r : LinkReport) : String :=
  if r.records.isEmpty && r.diagnostics.isEmpty then
    "No service descriptors found under " ++ r.root ++ "."
  else
    "\n".intercalate
      (r.records.flatMap (fun s => s.lines ++ [""]) ++ r.diagnosticLines ++ [r.countsLine])

end LinkReport

end ServiceLinker
