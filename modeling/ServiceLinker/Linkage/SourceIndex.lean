import ServiceLinker.Config.Basic
import ServiceLinker.FileSystem.Basic
import ServiceLinker.Path
import ServiceLinker.Report.Basic

/-!
# The index of a source tree

The texts of all descriptors and declarations below a root, in the order in which the files are
listed. No path is indexed twice in one role; the first file of a path counts.
-/

namespace ServiceLinker

/-- A file with its text and its name without extension. -/
structure SourceFile where
  path : String
  stem : String
  content : String
  deriving DecidableEq, Repr

def SourceFile.ofContent (path content : String) : SourceFile := ⟨path, Path.stem path, content⟩

/-- The roles of files. -/
inductive Role where
  | declaration
  | descriptor
  deriving DecidableEq, Repr

/-- The role of a path. A declaration extension decides first. -/
def Config.role? (c : Config) (path : String) : Option Role :=
  if Path.hasExtension path c.declarationExtension then some .declaration
  else if Path.hasExtension path c.descriptorExtension then some .descriptor
  else none

/-- The files of a source tree by role. -/
structure SourceIndex where
  declarations : List SourceFile
  descriptors : List SourceFile
  deriving Repr

namespace SourceIndex

/-- The files whose path no earlier file has, apart from the paths in `seen`. -/
def dedup (seen : List String) : List SourceFile → List SourceFile
  | [] => []
  | f :: fs => if f.path ∈ seen then dedup seen fs else f :: dedup (f.path :: seen) fs

/-- The index of given files. -/
def ofFiles (declarations descriptors : List SourceFile) : SourceIndex :=
  ⟨dedup [] declarations, dedup [] descriptors⟩

def declaration? (index : SourceIndex) (path : String) : Option SourceFile :=
  index.declarations.find? (·.path = path)

/-- The paths of a listing that have a role, each once, apart from the paths in `seen`. -/
def candidates (c : Config) (seen : List String) : List String → List (Role × String)
  | [] => []
  | p :: ps =>
    match c.role? p with
    | some role =>
      if p ∈ seen then candidates c seen ps else (role, p) :: candidates c (p :: seen) ps
    | none => candidates c seen ps

/-- A file that was read in its role, or the diagnostic of one that was not. -/
inductive Entry where
  | file (role : Role) (file : SourceFile)
  | unreadable (diagnostic : Diagnostic)
  deriving DecidableEq, Repr

namespace Entry

def fileOf? (role : Role) : Entry → Option SourceFile
  | .file r f => if r = role then some f else none
  | .unreadable _ => none

def diagnostic? : Entry → Option Diagnostic
  | .file _ _ => none
  | .unreadable d => some d

end Entry

/-- Reads one file. A failure is logged and noted. -/
def load (candidate : Role × String) : Script Entry := do
  match ← Script.readText candidate.2 with
  | .ok content => pure (.file candidate.1 (.ofContent candidate.2 content))
  | .error reason =>
    let e := LinkError.fileUnreadable candidate.2 reason
    Script.log .warn e.message
    pure (.unreadable (.ofError candidate.2 e))

/-- The index of the loaded entries, and their diagnostics. -/
def ofEntries (entries : List Entry) : SourceIndex × List Diagnostic :=
  (⟨entries.filterMap (Entry.fileOf? .declaration), entries.filterMap (Entry.fileOf? .descriptor)⟩,
    entries.filterMap Entry.diagnostic?)

/-- Lists the files below a root and reads those that have a role. -/
def build (root : String) (c : Config) :
    Script (Except LinkError (SourceIndex × List Diagnostic)) := do
  match ← Script.walkFiles root with
  | .error reason => pure (.error (.rootUnreadable root reason))
  | .ok paths =>
    let entries ← Script.traverse load (candidates c [] paths)
    let built := ofEntries entries
    Script.log .debug ("Indexed " ++ toString built.1.declarations.length ++
      " declaration files and " ++ toString built.1.descriptors.length ++ " descriptors under " ++
      root)
    pure (.ok built)

end SourceIndex

end ServiceLinker
