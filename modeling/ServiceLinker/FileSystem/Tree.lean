import ServiceLinker.FileSystem.Basic
import ServiceLinker.Path

/-!
# A file system given by a directory tree

A tree of directories, files and symbolic links. Absolute paths are taken from its root, and all
others from a working directory, which is the root as well unless another place is given. Components
of a path are looked up one after the other, and a link is followed. A listing visits the entries of
a directory in the order of their names and does not follow links, except that its root may be one.
-/

namespace ServiceLinker

/-- What a file holds: a text, or bytes that are no text. -/
inductive Content where
  | text (value : String)
  | bytes (value : List UInt8)
  deriving DecidableEq

namespace Content

/-- The bytes up to and with the first line feed, and what follows it. -/
def splitLine : List UInt8 → List UInt8 × List UInt8
  | [] => ([], [])
  | b :: bs =>
    if b = 10 then ([b], bs)
    else
      let (line, rest) := splitLine bs
      (b :: line, rest)

/-- The texts of the lines before the first line that is no text. -/
def leadingLines : Nat → List UInt8 → List String
  | 0, _ => []
  | fuel + 1, data =>
    if data.isEmpty then []
    else
      let (line, rest) := splitLine data
      match String.fromUTF8? ⟨line.toArray⟩ with
      | some s => s :: leadingLines fuel rest
      | none => []

/-- The text of a content as far as its lines are texts. -/
def leadingText : Content → String
  | .text s => s
  | .bytes data => String.join (leadingLines (data.length + 1) data)

/-- The content that bytes are: a text if they are one. -/
def ofBytes (data : List UInt8) : Content :=
  match String.fromUTF8? ⟨data.toArray⟩ with
  | some s => .text s
  | none => .bytes data

end Content

/-- A tree, or a part of one. -/
inductive Tree where
  | file (content : Content)
  | link (target : String)
  | dir (entries : List (String × Tree))

/-- Why an access to a tree fails. -/
inductive TreeError where
  | notFound
  | exists
  | notADirectory
  | isADirectory
  | nameTooLong
  | tooManyLinks
  | nulInPath
  | notText
  deriving DecidableEq, Repr

/-- The wording of a failed access. -/
def TreeError.message : TreeError → String
  | .notFound => "No such file or directory (os error 2)"
  | .exists => "File exists (os error 17)"
  | .notADirectory => "Not a directory (os error 20)"
  | .isADirectory => "Is a directory (os error 21)"
  | .nameTooLong => "File name too long (os error 36)"
  | .tooManyLinks => "Too many levels of symbolic links (os error 40)"
  | .nulInPath => "file name contained an unexpected NUL byte"
  | .notText => "stream did not contain valid UTF-8"

namespace Tree

/-- A tree without entries. -/
def empty : Tree := .dir []

def entry? (name : String) : Tree → Option Tree
  | .dir entries => entries.lookup name
  | _ => none

/-- The part of a tree at a list of names. -/
def at? : List String → Tree → Option Tree
  | [], t => some t
  | name :: names, t => (t.entry? name).bind (at? names)

def setEntry (name : String) (t : Tree) : List (String × Tree) → List (String × Tree)
  | [] => [(name, t)]
  | (n, u) :: entries =>
    if n = name then (name, t) :: entries else (n, u) :: setEntry name t entries

/-- Replaces the part of a tree at a list of names; everything above it must be a directory. -/
def put : Tree → List String → Tree → Tree
  | _, [], part => part
  | .dir entries, name :: names, part =>
    match entries.lookup name with
    | some t => .dir (setEntry name (put t names part) entries)
    | none => if names.isEmpty then .dir (setEntry name part entries) else .dir entries
  | t, _ :: _, _ => t

/-! ## Looking paths up -/

/-- Where a path leads. -/
inductive Target where
  /-- To a part of the tree. -/
  | found (place : List String) (part : Tree)
  /-- To a name that a directory does not have; `asDirectory` if a slash follows it. -/
  | missing (place : List String) (name : String) (asDirectory : Bool)

/-- The longest file name in bytes. -/
def nameLimit : Nat := 255

/-- Paths must be shorter than this many bytes. -/
def pathLimit : Nat := 4096

/-- How many links a path may cross. -/
def linkLimit : Nat := 40

def segments (path : List Char) : List String := (Path.segments path).map String.ofList

/-- Segments that lead nowhere else. -/
def staysHere (s : String) : Bool := s.isEmpty || s = "."

/-- The place at which a path starts: the root if it is absolute, and `here` otherwise. -/
def startOf (here : List String) (path : List Char) : List String :=
  if path.head? = some '/' then [] else here

/-- Follows segments from a place, crossing at most `links` links; `fuel` bounds the number of
steps. The root is its own parent. The last link is followed only if `follow` says so. -/
def lookUp (root : Tree) (follow : Bool) :
    Nat → Nat → List String → List String → Except TreeError Target
  | 0, _, _, _ => .error .tooManyLinks
  | fuel + 1, links, place, path =>
    match root.at? place with
    | none => .error .notFound
    | some part =>
      match path with
      | [] => .ok (.found place part)
      | s :: rest =>
        match part with
        | .dir entries =>
          if staysHere s then lookUp root follow fuel links place rest
          else if s = ".." then lookUp root follow fuel links place.dropLast rest
          else if nameLimit < s.utf8ByteSize then .error .nameTooLong
          else
            match entries.lookup s with
            | none =>
              if rest.all (·.isEmpty) then .ok (.missing place s !rest.isEmpty)
              else .error .notFound
            | some (.link target) =>
              if rest.isEmpty && !follow then .ok (.found (place ++ [s]) (.link target))
              else
                match links with
                | 0 => .error .tooManyLinks
                | links + 1 =>
                  let chars := target.toList
                  if chars.isEmpty then .error .notFound
                  else lookUp root follow fuel links (startOf place chars) (segments chars ++ rest)
            | some _ => lookUp root follow fuel links (place ++ [s]) rest
        | _ => .error .notADirectory

/-- Where a path leads from the working directory. -/
def resolve (root : Tree) (follow : Bool) (path : String) (here : List String := []) :
    Except TreeError Target :=
  let cs := path.toList
  if cs.contains '\x00' then .error .nulInPath
  else if cs.isEmpty then .error .notFound
  else if pathLimit ≤ path.utf8ByteSize then .error .nameTooLong
  else lookUp root follow (pathLimit * (linkLimit + 1)) linkLimit (startOf here cs) (segments cs)

/-- The part of the tree at a path. -/
def find (root : Tree) (path : String) (here : List String := []) : Except TreeError Tree := do
  match ← resolve root true path here with
  | .found _ part => .ok part
  | .missing .. => .error .notFound

/-- Something exists at a path. -/
def hasPath (root : Tree) (path : String) (here : List String := []) : Bool :=
  (find root path here).toOption.isSome

/-- The path leads to a directory. -/
def isDir (root : Tree) (path : String) (here : List String := []) : Bool :=
  match find root path here with
  | .ok (.dir _) => true
  | _ => false

/-! ## Reading -/

def readText (root : Tree) (path : String) (here : List String := []) :
    Except TreeError String := do
  match ← find root path here with
  | .file (.text s) => .ok s
  | .file (.bytes _) => .error .notText
  | .dir _ => .error .isADirectory
  | .link _ => .error .tooManyLinks

/-- The entries in the order of their names. -/
def sortEntries (entries : List (String × α)) : List (String × α) :=
  entries.mergeSort fun a b => a.1 ≤ b.1

/-- The content of the file at a path, if there is one. -/
def content? (root : Tree) (path : String) (here : List String := []) : Option Content :=
  match find root path here with
  | .ok (.file content) => some content
  | _ => none

mutual

/-- The files below a directory as lists of names, the entries of each directory in order. -/
def files : Tree → List (List String)
  | .dir entries => ((sortEntries (filesOf entries)).map (·.2)).flatten
  | _ => []

/-- For each entry, the files that it is or holds. -/
def filesOf : List (String × Tree) → List (String × List (List String))
  | [] => []
  | (name, .file _) :: entries => (name, [[name]]) :: filesOf entries
  | (name, .link _) :: entries => (name, []) :: filesOf entries
  | (name, .dir inner) :: entries =>
    (name, (files (.dir inner)).map (name :: ·)) :: filesOf entries

end

/-- A path below a listed root: the root as given, and a slash unless it ends with one. -/
def listedPath (root : String) (names : List String) : String :=
  let base := if root.toList.getLast? = some '/' then root else root ++ "/"
  base ++ "/".intercalate names

/-- The paths of all files below a directory. Only the path of the directory itself is held to the
limit, so that trees in which a path below it would be too long are not meant. -/
def walkFiles (t : Tree) (root : String) (here : List String := []) :
    Except TreeError (List String) := do
  match ← find t root here with
  | .dir entries => .ok ((files (.dir entries)).map (listedPath root))
  | _ => .error .notADirectory

/-! ## Writing -/

/-- Makes a single directory. -/
def makeDir (t : Tree) (path : String) (here : List String := []) : Except TreeError Tree := do
  match ← resolve t false path here with
  | .found .. => .error .exists
  | .missing place name _ => .ok (t.put (place ++ [name]) empty)

/-- Makes a directory unless it is there. -/
def ensureDir (t : Tree) (path : String) (here : List String := []) : Except TreeError Tree :=
  match makeDir t path here with
  | .ok t => .ok t
  | .error e => if isDir t path here then .ok t else .error e

/-- Makes a directory and those above it. What could be made stays. -/
def makeDirs (fuel : Nat) (t : Tree) (path : String) (here : List String := []) :
    Except TreeError Unit × Tree :=
  match fuel with
  | 0 => (.error .notFound, t)
  | fuel + 1 =>
    if path.isEmpty then (.ok (), t)
    else
      match ensureDir t path here, Path.parent? path with
      | .ok t, _ => (.ok (), t)
      | .error .notFound, some parent =>
        match makeDirs fuel t parent here with
        | (.error e, t) => (.error e, t)
        | (.ok (), t) =>
          match ensureDir t path here with
          | .ok t => (.ok (), t)
          | .error e => (.error e, t)
      | .error e, _ => (.error e, t)

/-- Makes the directories of a path. -/
def makeParents (t : Tree) (path : String) (here : List String := []) :
    Except TreeError Unit × Tree :=
  match Path.parent? path with
  | some parent => makeDirs (parent.length + 2) t parent here
  | none => (.ok (), t)

/-- The path without the slashes at its end. -/
def dropSlashes (path : String) : String :=
  String.ofList (path.toList.reverse.dropWhile (· = '/')).reverse

/-- Opens a file and replaces its content. -/
def setContent (t : Tree) (path : String) (content : Content) (here : List String := []) :
    Except TreeError Tree := do
  if dropSlashes path != path then
    -- of a path of slashes nothing is left, and it leads to the root
    if !(dropSlashes path).isEmpty then
      let _ ← resolve t false (dropSlashes path) here
    .error .isADirectory
  else
    match ← resolve t true path here with
    | .found place (.file _) => .ok (t.put place (.file content))
    | .found _ (.dir _) => .error .isADirectory
    | .found _ (.link _) => .error .tooManyLinks
    | .missing place name asDirectory =>
      if asDirectory then .error .isADirectory
      else .ok (t.put (place ++ [name]) (.file content))

/-- Makes the directories of a path and writes the file. What could be made stays even if the
file cannot be written. -/
def writeContent (t : Tree) (path : String) (content : Content) (here : List String := []) :
    Except TreeError Unit × Tree :=
  match makeParents t path here with
  | (.error e, t) => (.error e, t)
  | (.ok (), t) =>
    match setContent t path content here with
    | .error e => (.error e, t)
    | .ok t => (.ok (), t)

/-- Makes a symbolic link and the directories of its path; nothing else changes if the place is
taken. -/
def makeLink (t : Tree) (path target : String) (here : List String := []) : Tree :=
  let t := (makeParents t path here).2
  match resolve t false path here with
  | .ok (.missing place name _) => t.put (place ++ [name]) (.link target)
  | _ => t

/-! ## Answering requests -/

/-- An access with the wording of its failure. -/
def worded (x : Except TreeError α) : Except String α := x.mapError TreeError.message

def answer (here : List String) : (request : Request) → Tree → request.Answer × Tree
  | .walkFiles root, t => (worded (walkFiles t root here), t)
  | .readText path, t => (worded (readText t path here), t)
  | .write path text, t =>
    let (result, t) := writeContent t path (.text text) here
    (worded result, t)
  | .exists path, t => (hasPath t path here, t)

/-- A tree seen from a working directory. -/
def fileSystem (here : List String := []) : FileSystem Tree where
  answer request t := (.ok (answer here request t).1, (answer here request t).2)

theorem fileSystem_answers (here : List String) : (fileSystem here).Answers := fun _ _ => ⟨_, rfl⟩

end Tree

end ServiceLinker
