import ServiceLinker.FileSystem.Basic

/-!
# Traces of file access

A traced file system answers as the one below it does and keeps the calls that were answered, in
their order.
-/

namespace ServiceLinker

/-- A request together with its answer. -/
structure Call where
  request : Request
  answer : request.Answer

namespace FileSystem

variable {σ α : Type}

/-- A file system that keeps its calls. -/
def traced (fs : FileSystem σ) : FileSystem (σ × List Call) where
  answer r t :=
    match fs.answer r t.1 with
    | (.ok a, s) => (.ok a, (s, t.2 ++ [⟨r, a⟩]))
    | (.error h, s) => (.error h, (s, t.2))

end FileSystem

/-- Keeping the calls changes nothing about a run. -/
theorem Script.run_traced {σ α : Type} (fs : FileSystem σ) (x : Script α) (s : σ)
    (calls : List Call) :
    (x.run fs.traced (s, calls)).result = (x.run fs s).result ∧
      (x.run fs.traced (s, calls)).state.1 = (x.run fs s).state ∧
      (x.run fs.traced (s, calls)).log = (x.run fs s).log := by
  induction x generalizing s calls with
  | done a => exact ⟨rfl, rfl, rfl⟩
  | ask r next ih =>
    simp only [Script.run, FileSystem.traced]
    rcases fs.answer r s with ⟨_ | a, s'⟩
    · exact ⟨rfl, rfl, rfl⟩
    · exact ih a s' (calls ++ [⟨r, a⟩])
  | note e next ih =>
    obtain ⟨h1, h2, h3⟩ := ih s calls
    exact ⟨h1, h2, congrArg (e :: ·) h3⟩

namespace Call

def readPath? : Call → Option String
  | ⟨.readText path, _⟩ => some path
  | _ => none

/-- The path of a call that asks whether something exists. -/
def testedPath? : Call → Option String
  | ⟨.exists path, _⟩ => some path
  | _ => none

/-- Path and text of a call that tries to write a file. -/
def attempted? : Call → Option (String × String)
  | ⟨.write path text, _⟩ => some (path, text)
  | _ => none

/-- The answer to a call that tries to write a file. -/
def writeAnswer? : Call → Option (Except String Unit)
  | ⟨.write _ _, answer⟩ => some answer
  | _ => none

/-- Path and text of a call that wrote a file. -/
def written? : Call → Option (String × String)
  | ⟨.write path text, .ok _⟩ => some (path, text)
  | _ => none

end Call

end ServiceLinker
