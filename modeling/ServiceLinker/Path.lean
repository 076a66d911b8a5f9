import ServiceLinker.Text.Search

/-!
# Paths

A path is a text whose components stand between slashes. Empty components and single points are
passed over, except that a single point at the start of a relative path counts. The file name is
the last component if that is a name, and a file name has an extension if a point stands in it
behind its first character.
-/

namespace ServiceLinker.Path

inductive Component where
  /-- The slash that an absolute path starts with. -/
  | root
  /-- The single point that a relative path starts with. -/
  | here
  /-- Two points: the directory above. -/
  | up
  | name (text : List Char)
  deriving DecidableEq, Repr

/-- The texts between slashes. -/
def segments : List Char → List (List Char)
  | [] => [[]]
  | c :: cs =>
    if c = '/' then [] :: segments cs
    else
      match segments cs with
      | s :: ss => (c :: s) :: ss
      | [] => [[c]]

/-- The component of a segment, if it counts. -/
def component? (s : List Char) : Option Component :=
  if s = [] then none
  else if s = ['.'] then none
  else if s = ['.', '.'] then some .up
  else some (.name s)

/-- The components of a path given by its characters. -/
def componentsOf (cs : List Char) : List Component :=
  let ss := segments cs
  let body := ss.filterMap component?
  if cs.head? = some '/' then .root :: body
  else if ss.head? = some ['.'] then .here :: body
  else body

def components (path : String) : List Component := componentsOf path.toList

def fileName? (path : String) : Option (List Char) :=
  match (components path).getLast? with
  | some (.name s) => some s
  | _ => none

/-- A file name before and behind its last point, if that is not the first character. -/
def splitName? (name : List Char) : Option (List Char × List Char) :=
  match Text.splitLast? '.' name with
  | some (stem, extension) => if stem.isEmpty then none else some (stem, extension)
  | none => none

/-- The file name without its extension; empty if there is no file name. -/
def stem (path : String) : String :=
  match fileName? path with
  | some name =>
    match splitName? name with
    | some (stem, _) => String.ofList stem
    | none => String.ofList name
  | none => ""

def extension? (path : String) : Option String :=
  ((fileName? path).bind splitName?).map fun p => String.ofList p.2

/-- The path has the given extension, up to the case of ASCII letters. -/
def hasExtension (path extension : String) : Bool :=
  (extension? path).any (Text.equalIgnoringCase · extension)

def Component.text : Component → List Char
  | .root => []
  | .here => ['.']
  | .up => ['.', '.']
  | .name s => s

/-- A path with the given components. -/
def ofComponents : List Component → String
  | [.root] => "/"
  | cs => String.ofList (['/'].intercalate (cs.map Component.text))

/-- The path without its last component, unless that is the root or there is none. -/
def parent? (path : String) : Option String :=
  let cs := components path
  match cs.getLast? with
  | none | some .root => none
  | some _ => some (ofComponents cs.dropLast)

/-- A path below another; an absolute path stands for itself. -/
def join (base path : String) : String :=
  if path.toList.head? = some '/' then path
  else if base.isEmpty then path
  else if base.toList.getLast? = some '/' then base ++ path
  else base ++ "/" ++ path

end ServiceLinker.Path
