import ServiceLinker.Document
import ServiceLinker.Path
import ServiceLinker.Text.Alphanumeric
import ServiceLinker.Yaml.Printer

/-!
# Service bundles

A bundle carries the texts of the descriptor, the implementation and the interface of one linked
service. It is written to a file that is named after the qualified name of the service.
-/

namespace ServiceLinker

/-- A file with its text. -/
structure Artifact where
  path : String
  content : String
  deriving DecidableEq, Repr

/-- The files of one linked service. -/
structure ServiceBundle where
  serviceName : String
  qualifiedName : String
  descriptor : Artifact
  implementation : Artifact
  interface : Artifact
  deriving DecidableEq, Repr

namespace ServiceBundle

/-! ## File names -/

/-- The character may stand in a file name. -/
def isNameChar (c : Char) : Bool := Text.isAlphanumeric c || c = '.' || c = '_'

/-- A text in which every other character became an underscore. -/
def sanitize (s : String) : String :=
  String.ofList (s.toList.map fun c => if isNameChar c then c else '_')

/-- What the name of a bundle file ends in. -/
def ending : String := ".bundle.yaml"

def fileName (b : ServiceBundle) : String := sanitize b.qualifiedName ++ ending

/-- The name of the file of a bundle that also names its descriptor. -/
def descriptorFileName (b : ServiceBundle) : String :=
  sanitize b.qualifiedName ++ "." ++ sanitize (Path.stem b.descriptor.path) ++ ending

/-- Drops a beginning as often as it stands there, at most `fuel` times. -/
def dropRepeated (w : List Char) : Nat → List Char → List Char
  | 0, cs => cs
  | fuel + 1, cs =>
    match Text.after? w cs with
    | some rest => dropRepeated w fuel rest
    | none => cs

/-- A file name without all its endings. -/
def baseName (name : String) : String :=
  String.ofList
    (dropRepeated ending.toList.reverse name.length name.toList.reverse).reverse

/-- The names that are tried in turn if the file name of a bundle is taken. -/
def fallbackName (b : ServiceBundle) : Nat → String
  | 0 => b.descriptorFileName
  | k + 1 => baseName b.descriptorFileName ++ "." ++ toString (k + 2) ++ ending

/-- The first candidate from `k` on that is not taken, unless the fuel runs out before. -/
def firstFree (taken : List String) (candidate : Nat → String) : Nat → Nat → String
  | 0, k => candidate k
  | fuel + 1, k =>
    if candidate k ∈ taken then firstFree taken candidate fuel (k + 1) else candidate k

/-- A candidate that comes out of the search with fuel is free, or all candidates tried are
taken. -/
theorem firstFree_notMem_or (taken : List String) (candidate : Nat → String) (fuel k : Nat) :
    firstFree taken candidate (fuel + 1) k ∉ taken ∨
      ∀ i, i ≤ fuel → candidate (k + i) ∈ taken := by
  induction fuel generalizing k with
  | zero =>
    by_cases h : candidate k ∈ taken
    · right
      intro i hi
      obtain rfl : i = 0 := by omega
      exact h
    · left
      simp [firstFree, h]
  | succ fuel ih =>
    by_cases h : candidate k ∈ taken
    · rcases ih (k + 1) with hfree | hall
      · left
        rw [firstFree, if_pos h]
        exact hfree
      · right
        intro i hi
        cases i with
        | zero => exact h
        | succ i =>
          have := hall i (by omega)
          rwa [show k + 1 + i = k + (i + 1) by omega] at this
    · left
      simp [firstFree, h]

/-- The name of a bundle file beside those that are taken: one more candidate than names are taken
is always enough. -/
def freeName (taken : List String) (b : ServiceBundle) : String :=
  if b.fileName ∈ taken then firstFree taken b.fallbackName (taken.length + 1) 0 else b.fileName

end ServiceBundle

namespace Artifact

variable {ν : Type}

def fieldNames : List String := ["path", "content"]

/-- A file as a value. -/
def toJson (a : Artifact) : Json := .object [("path", .text a.path), ("content", .text a.content)]

/-- A file read from a document. -/
def read? (F : DocumentFormat ν) (v : ν) : Option Artifact := do
  let fields ← F.record? fieldNames v
  let path ← fields.required "path" F.text?
  let content ← fields.required "content" F.text?
  pure ⟨path, content⟩

end Artifact

namespace ServiceBundle

variable {ν : Type}

def fieldNames : List String :=
  ["service_name", "qualified_name", "descriptor", "implementation", "interface"]

/-- A bundle as a value. -/
def toJson (b : ServiceBundle) : Json :=
  .object [("service_name", .text b.serviceName), ("qualified_name", .text b.qualifiedName),
    ("descriptor", b.descriptor.toJson), ("implementation", b.implementation.toJson),
    ("interface", b.interface.toJson)]

def read? (F : DocumentFormat ν) (v : ν) : Option ServiceBundle := do
  let fields ← F.record? fieldNames v
  let serviceName ← fields.required "service_name" F.text?
  let qualifiedName ← fields.required "qualified_name" F.text?
  let descriptor ← fields.required "descriptor" (Artifact.read? F)
  let implementation ← fields.required "implementation" (Artifact.read? F)
  let interface ← fields.required "interface" (Artifact.read? F)
  pure ⟨serviceName, qualifiedName, descriptor, implementation, interface⟩

/-- The text of a bundle file. -/
def toText (b : ServiceBundle) : String := Yaml.print b.toJson

end ServiceBundle

end ServiceLinker
