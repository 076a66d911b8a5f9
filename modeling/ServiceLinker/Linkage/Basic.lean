import ServiceLinker.Linkage.Descriptor
import ServiceLinker.Linkage.Resolution

/-!
# Linking descriptors

Every descriptor that names a service gets one record; the others only get a diagnostic of the
run. A record carries a diagnostic for each relation that was not found.
-/

namespace ServiceLinker

/-- The diagnostic of a search that failed. -/
def failure (path : String) : Except LinkError α → List Diagnostic
  | .ok _ => []
  | .error e => [.ofError path e]

/-- The message about a finished record. -/
def LinkedService.announcement (r : LinkedService) : LogEntry :=
  if r.isResolved then
    ⟨.info, "Found service " ++ r.serviceName ++ ": descriptor " ++ r.descriptorPath ++
      ", implementation " ++ r.implementationPath.getD "" ++ ", interface " ++
      r.interfacePath.getD ""⟩
  else
    ⟨.warn, "Could not link " ++ r.descriptorPath ++ " to its " ++
      " and ".intercalate (r.missing.map Relation.label)⟩

/-- The record of a descriptor. -/
def linkDescriptor (index : SourceIndex) (c : Config) (d : ServiceDescriptor) :
    Logged LinkedService := do
  let declarations : Declarations := ⟨index.declarations, c.ambiguity⟩
  let implementation ← declarations.resolveImplementation d.simpleName
  let implementationPath := implementation.toOption.map (·.path)
  let interface ← declarations.resolveInterface d.simpleName
    (implementationPath.bind index.declaration?) c.contractMarker
  let record : LinkedService :=
    { serviceName := d.simpleName
      qualifiedName := d.declaredTypeName
      descriptorPath := d.path
      implementationPath := implementationPath
      interfacePath := interface.toOption.map (·.path)
      interfaceSource := interface.toOption.map (·.source)
      diagnostics := failure d.path implementation ++ failure d.path interface }
  Logged.note record.announcement.level record.announcement.message
  pure record

/-- The record of a descriptor file, or the diagnostic of one that names no service. -/
def linkFile (index : SourceIndex) (c : Config) (file : SourceFile) :
    Logged (Except Diagnostic LinkedService) :=
  match ServiceDescriptor.parse file with
  | .ok d => do
    let record ← linkDescriptor index c d
    pure (.ok record)
  | .error e => do
    Logged.note .warn (e.message ++ ". Skipping.")
    pure (.error (.ofError file.path e))

/-- The records and the diagnostics of results in order. -/
def reportOf (results : List (Except Diagnostic LinkedService)) : LinkReport where
  root := ""
  records := results.filterMap (·.toOption)
  diagnostics := results.filterMap fun
    | .ok _ => none
    | .error d => some d

/-- Links every descriptor of an index, each path once. -/
def link (index : SourceIndex) (c : Config) : Logged LinkReport := do
  let results ← Logged.traverse (linkFile index c) (SourceIndex.dedup [] index.descriptors)
  pure (reportOf results)

/-- Indexes a source tree and links every descriptor found there. -/
def linkTree (root : String) (c : Config) : Script (Except LinkError LinkReport) := do
  match ← SourceIndex.build root c with
  | .error e => pure (.error e)
  | .ok (index, diagnostics) =>
    let report ← Script.ofLogged (link index c)
    pure (.ok { report with root := root, diagnostics := diagnostics ++ report.diagnostics })

end ServiceLinker
