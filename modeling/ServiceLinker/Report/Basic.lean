import ServiceLinker.LinkError

/-!
# Link reports

One record per descriptor that names a service, and the diagnostics of the run. A record is
resolved when both of its relations were found; a report is complete when no descriptor was
skipped for naming no service and every record is resolved.
-/

namespace ServiceLinker

/-- A message about a file. -/
structure Diagnostic where
  kind : ErrorKind
  path : String
  message : String
  deriving DecidableEq, Repr

/-- The diagnostic of a cause, filed under a path. -/
def Diagnostic.ofError (path : String) (e : LinkError) : Diagnostic := ⟨e.kind, path, e.message⟩

/-- The relations that link a descriptor to declarations. -/
inductive Relation where
  | implementation
  | interface
  deriving DecidableEq, Repr

/-- The name of a relation. -/
def Relation.label : Relation → String
  | .implementation => "implementation"
  | .interface => "interface"

/-- How the file of an interface was found. -/
inductive InterfaceSource where
  /-- Named by the class header of the implementation. -/
  | inheritance
  /-- Chosen by the contract marker and the name of the file. -/
  | contractFallback
  deriving DecidableEq, Repr

namespace InterfaceSource

def tag : InterfaceSource → String
  | .inheritance => "inheritance"
  | .contractFallback => "contract_fallback"

/-- The source with a given tag. -/
def ofTag? : String → Option InterfaceSource
  | "inheritance" => some .inheritance
  | "contract_fallback" => some .contractFallback
  | _ => none

@[simp] theorem ofTag?_tag (s : InterfaceSource) : ofTag? s.tag = some s := by
  cases s <;> rfl

end InterfaceSource

/-- The links of one descriptor. -/
structure LinkedService where
  serviceName : String
  qualifiedName : String
  descriptorPath : String
  implementationPath : Option String
  interfacePath : Option String
  interfaceSource : Option InterfaceSource
  diagnostics : List Diagnostic
  deriving DecidableEq, Repr

namespace LinkedService

/-- Both relations were found. -/
def isResolved (r : LinkedService) : Bool :=
  r.implementationPath.isSome && r.interfacePath.isSome

/-- The relations that were not found, the implementation first. -/
def missing (r : LinkedService) : List Relation :=
  (if r.implementationPath.isNone then [.implementation] else []) ++
    (if r.interfacePath.isNone then [.interface] else [])

/-- A record is resolved exactly when it misses nothing. -/
theorem isResolved_iff_missing_eq_nil (r : LinkedService) :
    r.isResolved = true ↔ r.missing = [] := by
  cases hi : r.implementationPath <;> cases hf : r.interfacePath <;>
    simp [isResolved, missing, hi, hf]

end LinkedService

/-- What a run of the linker found. -/
structure LinkReport where
  root : String
  records : List LinkedService
  diagnostics : List Diagnostic
  deriving DecidableEq, Repr

namespace LinkReport

/-- The records with both relations. -/
def resolved (r : LinkReport) : List LinkedService := r.records.filter (·.isResolved)

/-- The records that miss a relation. -/
def partialRecords (r : LinkReport) : List LinkedService := r.records.filter (!·.isResolved)

/-- How many descriptors were skipped because they name no service. -/
def skippedCount (r : LinkReport) : Nat :=
  r.diagnostics.countP (·.kind = .descriptorAttributeMissing)

/-- No descriptor was skipped and every record is resolved. -/
def isComplete (r : LinkReport) : Bool :=
  r.skippedCount == 0 && r.records.all (·.isResolved)

/-- Every record is resolved or partial. -/
theorem length_resolved_add_partialRecords (r : LinkReport) :
    r.resolved.length + r.partialRecords.length = r.records.length := by
  simp only [resolved, partialRecords]
  induction r.records with
  | nil => rfl
  | cons x xs ih =>
    cases h : x.isResolved <;> simp [h] <;> omega

end LinkReport

end ServiceLinker
