import ServiceLinker.Bundle.Basic
import ServiceLinker.FileSystem.Basic

/-!
# Writing bundles

The bundles of one run are written into one directory, each to a file of its own. A file that is
there already is replaced; the first write that fails ends the run.
-/

namespace ServiceLinker

/-- A file that could not be written, and why. -/
structure WriteFailure where
  path : String
  reason : String
  deriving DecidableEq, Repr

namespace ServiceBundle

/-- The name of a bundle file beside those that are taken. A fallback name is announced. -/
def chooseName (taken : List String) (b : ServiceBundle) : Logged String := do
  let name := b.freeName taken
  if b.fileName ∈ taken then
    Logged.note .warn (b.qualifiedName ++ " is already bundled as " ++ b.fileName ++ "; writing " ++
      b.descriptor.path ++ " as " ++ name)
  pure name

def writeTo (b : ServiceBundle) (path : String) : Script (Except WriteFailure Unit) := do
  if ← Script.exists? path then
    Script.log .info ("Replacing existing bundle " ++ path)
  match ← Script.write path b.toText with
  | .error reason => pure (.error ⟨path, reason⟩)
  | .ok () => pure (.ok ())

/-- Writes bundles into a directory beside the names that are taken, and returns their paths. -/
def writeBeside (directory : String) :
    List String → List ServiceBundle → Script (Except WriteFailure (List String))
  | _, [] => pure (.ok [])
  | taken, b :: bs => do
    let name ← Script.ofLogged (b.chooseName taken)
    let path := Path.join directory name
    match ← b.writeTo path with
    | .error e => pure (.error e)
    | .ok () =>
      match ← writeBeside directory (name :: taken) bs with
      | .error e => pure (.error e)
      | .ok paths => pure (.ok (path :: paths))

/-- Writes bundles into a directory, and returns their paths. -/
def writeAll (directory : String) (bs : List ServiceBundle) :
    Script (Except WriteFailure (List String)) :=
  writeBeside directory [] bs

end ServiceBundle

end ServiceLinker
