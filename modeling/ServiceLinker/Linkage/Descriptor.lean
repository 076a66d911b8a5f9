import ServiceLinker.Linkage.SourceIndex
import ServiceLinker.Pattern

/-!
# Service descriptors

A descriptor names the type of its service in an attribute. The simple name of the type, behind
its last point, is what declarations are searched for.
-/

namespace ServiceLinker

/-- The part of a qualified name behind its last point. -/
def simpleName (qualified : String) : String :=
  match Text.splitLast? '.' qualified.toList with
  | some (_, name) => String.ofList name
  | none => qualified

/-- What a descriptor says about its service. -/
structure ServiceDescriptor where
  path : String
  declaredTypeName : String
  deriving DecidableEq, Repr

namespace ServiceDescriptor

def simpleName (d : ServiceDescriptor) : String := ServiceLinker.simpleName d.declaredTypeName

/-- The descriptor in a file. Only its first attribute counts, and it must name a type. -/
def parse (file : SourceFile) : Except LinkError ServiceDescriptor :=
  match Pattern.serviceAttribute? file.content with
  | some name =>
    if (ServiceLinker.simpleName name).isEmpty then .error (.descriptorAttributeMissing file.path)
    else .ok ⟨file.path, name⟩
  | none => .error (.descriptorAttributeMissing file.path)

end ServiceDescriptor

end ServiceLinker
