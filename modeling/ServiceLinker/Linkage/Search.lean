import ServiceLinker.Linkage.SourceIndex
import ServiceLinker.Pattern

/-!
# Searching the declarations of an index

A file declares a name if its own name contains it and its text has a matching header. The
ambiguity policy decides what several hits mean.
-/

namespace ServiceLinker

open Pattern (Kind)

/-- A declaration that was found. -/
structure DeclarationMatch where
  path : String
  simpleName : String
  kind : Kind
  deriving DecidableEq, Repr

/-- Applies a policy to the hits of a search. -/
def AmbiguityPolicy.choose (policy : AmbiguityPolicy) (label name : String)
    (hits : List SourceFile) : Except LinkError (Option SourceFile) :=
  match policy, hits with
  | .error, _ :: _ :: _ => .error (.ambiguousMatch name label (hits.map (·.path)))
  | _, _ => .ok hits.head?

/-- The declarations of an index under a policy. -/
structure Declarations where
  files : List SourceFile
  policy : AmbiguityPolicy

namespace Declarations

/-- The one declaration that satisfies a condition. -/
def firstWhere (d : Declarations) (label name : String) (p : SourceFile → Bool) :
    Except LinkError (Option SourceFile) :=
  d.policy.choose label name (d.files.filter p)

def declares (header : String → Bool) (name : String) (file : SourceFile) : Bool :=
  Text.contains file.stem name && header file.content

/-- The declaration of a name that satisfies a further condition. -/
def findWhere (d : Declarations) (name : String) (kind : Kind) (p : SourceFile → Bool) :
    Logged (Except LinkError (Option DeclarationMatch)) := do
  match ← Pattern.header? kind name with
  | none => pure (.ok none)
  | some header =>
    match d.firstWhere kind.keyword name fun file => declares header name file && p file with
    | .error e => pure (.error e)
    | .ok none => pure (.ok none)
    | .ok (some file) =>
      Logged.note .debug (kind.keyword ++ " " ++ name ++ " matched " ++ file.path)
      pure (.ok (some ⟨file.path, name, kind⟩))

def find (d : Declarations) (name : String) (kind : Kind) :
    Logged (Except LinkError (Option DeclarationMatch)) :=
  d.findWhere name kind fun _ => true

end Declarations

end ServiceLinker
