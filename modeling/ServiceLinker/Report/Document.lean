import ServiceLinker.Document
import ServiceLinker.Report.Basic

/-!
# Reports as documents

The fields of reports, records and diagnostics, written in a fixed order and read by name. An
absent path or source is written as null.
-/

namespace ServiceLinker

variable {ν : Type}

namespace Diagnostic

def fieldNames : List String := ["kind", "path", "message"]

/-- A diagnostic as a value. -/
def toJson (d : Diagnostic) : Json :=
  .object [("kind", .text d.kind.tag), ("path", .text d.path), ("message", .text d.message)]

def read? (F : DocumentFormat ν) (v : ν) : Option Diagnostic := do
  let fields ← F.record? fieldNames v
  let kind ← fields.required "kind" fun v => (F.caseName? v).bind ErrorKind.ofTag?
  let path ← fields.required "path" F.text?
  let message ← fields.required "message" F.text?
  pure ⟨kind, path, message⟩

end Diagnostic

namespace LinkedService

def fieldNames : List String :=
  ["service_name", "qualified_name", "descriptor_path", "implementation_path", "interface_path",
    "interface_source", "diagnostics"]

/-- A record as a value. -/
def toJson (r : LinkedService) : Json :=
  .object [("service_name", .text r.serviceName), ("qualified_name", .text r.qualifiedName),
    ("descriptor_path", .text r.descriptorPath),
    ("implementation_path", .ofOption .text r.implementationPath),
    ("interface_path", .ofOption .text r.interfacePath),
    ("interface_source", .ofOption (fun s => .text s.tag) r.interfaceSource),
    ("diagnostics", .list (r.diagnostics.map Diagnostic.toJson))]

def read? (F : DocumentFormat ν) (v : ν) : Option LinkedService := do
  let fields ← F.record? fieldNames v
  let serviceName ← fields.required "service_name" F.text?
  let qualifiedName ← fields.required "qualified_name" F.text?
  let descriptorPath ← fields.required "descriptor_path" F.text?
  let implementationPath ← fields.optional F "implementation_path" F.text?
  let interfacePath ← fields.optional F "interface_path" F.text?
  let interfaceSource ← fields.optional F "interface_source" fun v =>
    (F.caseName? v).bind InterfaceSource.ofTag?
  let diagnostics ← fields.required "diagnostics" (F.list? (Diagnostic.read? F))
  pure ⟨serviceName, qualifiedName, descriptorPath, implementationPath, interfacePath,
    interfaceSource, diagnostics⟩

end LinkedService

namespace LinkReport

def fieldNames : List String := ["root", "records", "diagnostics"]

/-- A report as a value. -/
def toJson (r : LinkReport) : Json :=
  .object [("root", .text r.root), ("records", .list (r.records.map LinkedService.toJson)),
    ("diagnostics", .list (r.diagnostics.map Diagnostic.toJson))]

def read? (F : DocumentFormat ν) (v : ν) : Option LinkReport := do
  let fields ← F.record? fieldNames v
  let root ← fields.required "root" F.text?
  let records ← fields.required "records" (F.list? (LinkedService.read? F))
  let diagnostics ← fields.required "diagnostics" (F.list? (Diagnostic.read? F))
  pure ⟨root, records, diagnostics⟩

end LinkReport

end ServiceLinker
