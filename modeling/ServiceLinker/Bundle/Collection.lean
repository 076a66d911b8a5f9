import ServiceLinker.Bundle.Basic
import ServiceLinker.FileSystem.Basic
import ServiceLinker.Report.Basic
import ServiceLinker.Text.Blank

/-!
# Collecting bundles

Every resolved record of a report becomes a bundle, unless one of its files cannot be read or is
blank; then it becomes a diagnostic instead. The files of a record are read in a fixed order up to
the first that fails.
-/

namespace ServiceLinker

/-- Reads a file that must hold something. -/
def Artifact.load (path : String) : Script (Except LinkError Artifact) := do
  match ← Script.readText path with
  | .error reason => pure (.error (.fileUnreadable path reason))
  | .ok content =>
    if Text.allBlank content then pure (.error (.fileUnreadable path "file is empty"))
    else pure (.ok ⟨path, content⟩)

namespace LinkedService

/-- Reads the files of a record whose relations have the given paths. -/
def loadBundle (r : LinkedService) (implementation interface : String) :
    Script (Except LinkError ServiceBundle) := do
  match ← Artifact.load r.descriptorPath with
  | .error e => pure (.error e)
  | .ok descriptor =>
    match ← Artifact.load implementation with
    | .error e => pure (.error e)
    | .ok implementation =>
      match ← Artifact.load interface with
      | .error e => pure (.error e)
      | .ok interface =>
        pure (.ok ⟨r.serviceName, r.qualifiedName, descriptor, implementation, interface⟩)

/-- The bundle of a record. -/
def bundle (r : LinkedService) : Script (Except LinkError ServiceBundle) :=
  match r.implementationPath, r.interfacePath with
  | some implementation, some interface => r.loadBundle implementation interface
  | _, _ => pure (.error (.fileUnreadable r.descriptorPath "record is not resolved"))

/-- The bundle of a record, or the diagnostic of a record that has none. -/
def bundleOrDiagnostic (r : LinkedService) : Script (Except Diagnostic ServiceBundle) := do
  match ← r.bundle with
  | .ok b => pure (.ok b)
  | .error e =>
    Script.log .warn ("Skipping " ++ r.serviceName ++ ": " ++ e.message)
    pure (.error (.ofError r.descriptorPath e))

end LinkedService

/-- The bundles of the resolved records of a report, and the diagnostics of those without one. -/
def LinkReport.bundleResolved (r : LinkReport) :
    Script (List ServiceBundle × List Diagnostic) := do
  let results ← Script.traverse LinkedService.bundleOrDiagnostic r.resolved
  pure (results.filterMap (·.toOption), results.filterMap fun
    | .ok _ => none
    | .error d => some d)

end ServiceLinker
