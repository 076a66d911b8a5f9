import ServiceLinker.Linkage.Search

/-!
# Resolving a service

The implementation of a service is the class of its name. Its contract is the interface that the
class header lists first, if a file declares it and holds the contract marker; failing that, the
file that holds the marker and is named after the service.
-/

namespace ServiceLinker

/-- The contract that was found for a service. -/
structure InterfaceMatch where
  path : String
  /-- The base interface that the implementation lists, if it does. -/
  declaredName : Option String
  source : InterfaceSource
  deriving DecidableEq, Repr

namespace Declarations

/-- The class that implements a service. -/
def resolveImplementation (d : Declarations) (service : String) :
    Logged (Except LinkError DeclarationMatch) := do
  match ← d.find service .classKind with
  | .error e => pure (.error e)
  | .ok none => pure (.error (.implementationNotFound service))
  | .ok (some m) => pure (.ok m)

/-- The base interface that the implementation lists. -/
def declaredInterface (service : String) : Option SourceFile → Logged (Option String)
  | some file => Pattern.inherited? service file.content
  | none => pure none

/-- What the name of a contract file contains when nothing better is known. -/
def contractName (service : String) : String := "I" ++ service

/-- The contract that is chosen by marker and file name. -/
def resolveByMarker (d : Declarations) (service marker : String) (declaredName : Option String) :
    Except LinkError InterfaceMatch :=
  let name := contractName service
  match d.firstWhere "contract" name fun file =>
      Text.contains file.content marker && Text.contains file.stem name with
  | .error e => .error e
  | .ok none => .error (.interfaceNotFound service)
  | .ok (some file) => .ok ⟨file.path, declaredName, .contractFallback⟩

/-- The contract of a service. -/
def resolveInterface (d : Declarations) (service : String) (implementation : Option SourceFile)
    (marker : String) : Logged (Except LinkError InterfaceMatch) := do
  match ← declaredInterface service implementation with
  | none => pure (d.resolveByMarker service marker none)
  | some name =>
    match ← d.findWhere name .interfaceKind fun file => Text.contains file.content marker with
    | .error e => pure (.error e)
    | .ok (some m) => pure (.ok ⟨m.path, some name, .inheritance⟩)
    | .ok none =>
      Logged.note .debug
        ("Declared interface " ++ name ++ " of " ++ service ++ " not found, trying fallback")
      pure (d.resolveByMarker service marker (some name))

end Declarations

end ServiceLinker
