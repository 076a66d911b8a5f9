import ServiceLinker.FileSystem.Basic

/-!
# A file system given by a table

Texts and failures by path, a fixed listing, and refusals of writes. A path stands for itself
only; writes do not change the listing.
-/

namespace ServiceLinker

structure FileTable where
  /-- What every listing answers. -/
  listing : Except String (List String)
  /-- The text of a path, or why it cannot be read. -/
  files : List (String × Except String String)
  /-- The paths that cannot be written, and why. -/
  refusals : List (String × String)

namespace FileTable

/-- Stores an entry of a table in place of an earlier one. -/
def put (path : String) (content : Except String String) :
    List (String × Except String String) → List (String × Except String String)
  | [] => [(path, content)]
  | (p, c) :: files =>
    if p = path then (path, content) :: files else (p, c) :: put path content files

/-- The table of a list of files; the last entry of a path counts. -/
def ofList (listing : Except String (List String)) (files : List (String × Except String String))
    (refusals : List (String × String)) : FileTable :=
  ⟨listing, files.foldl (fun acc f => put f.1 f.2 acc) [], refusals⟩

theorem lookup_put_self (path : String) (content : Except String String)
    (files : List (String × Except String String)) :
    (put path content files).lookup path = some content := by
  induction files with
  | nil => simp [put]
  | cons f files ih =>
    obtain ⟨p, c⟩ := f
    unfold put
    split
    · simp
    · rename_i h
      have : (path == p) = false := by simpa using Ne.symm h
      rw [List.lookup_cons, this]
      exact ih

theorem lookup_put_of_ne {path other : String} (h : other ≠ path) (content : Except String String)
    (files : List (String × Except String String)) :
    (put path content files).lookup other = files.lookup other := by
  induction files with
  | nil =>
    have : (other == path) = false := by simpa using h
    rw [put, List.lookup_cons, this]
  | cons f files ih =>
    obtain ⟨p, c⟩ := f
    unfold put
    split
    · rename_i hp
      have : (other == p) = false := by rw [hp]; simpa using h
      have h' : (other == path) = false := by simpa using h
      simp only [List.lookup_cons, this, h']
    · simp only [List.lookup_cons, ih]

/-- The reason given for a path that the table does not have. -/
def missing : String := "no such file"

def answer : (request : Request) → FileTable → request.Answer × FileTable
  | .walkFiles _, t => (t.listing, t)
  | .readText path, t => ((t.files.lookup path).getD (.error missing), t)
  | .write path text, t =>
    match t.refusals.lookup path with
    | some reason => (.error reason, t)
    | none => (.ok (), { t with files := put path (.ok text) t.files })
  | .exists path, t => ((t.files.lookup path).isSome, t)

def fileSystem : FileSystem FileTable where
  answer request t := ((answer request t).1 |> .ok, (answer request t).2)

theorem fileSystem_answers : fileSystem.Answers := fun _ _ => ⟨_, rfl⟩

end FileTable

end ServiceLinker
