import ServiceLinker.Log

/-!
# Programs that access files

The linker touches files through four requests only. A `Script` is a computation that makes such
requests, and a `FileSystem` answers them from a state of its own. A file system may also break
off, which ends the computation; what a script has logged by then stays.
-/

namespace ServiceLinker

inductive Request where
  /-- The paths of all files below a directory. -/
  | walkFiles (root : String)
  /-- The text of a file. -/
  | readText (path : String)
  /-- The text of a file is replaced, and the file made if it is not there. -/
  | write (path text : String)
  /-- Whether something exists at a path. -/
  | exists (path : String)
  deriving DecidableEq, Repr

/-- The answers to a request. A request that fails is answered with the reason. -/
@[reducible] def Request.Answer : Request → Type
  | .walkFiles _ => Except String (List String)
  | .readText _ => Except String String
  | .write _ _ => Except String Unit
  | .exists _ => Bool

/-- Why a file system breaks off instead of answering. Only a replayed recording does. -/
inductive Halt where
  /-- The recording has no calls of the method at all. -/
  | unrecorded (port method : String) (available : List String)
  /-- Every recorded call of the method has been served. -/
  | consumed (port method : String) (last : Option Nat)
  /-- An earlier request could not be served. -/
  | diverged
  /-- The recorded answer to an existence test is no truth value. -/
  | notBoolean
  deriving DecidableEq, Repr

/-- A file system with states `σ`. -/
structure FileSystem (σ : Type) where
  answer : (request : Request) → σ → Except Halt request.Answer × σ

/-- A file system that answers every request. -/
def FileSystem.Answers {σ : Type} (fs : FileSystem σ) : Prop :=
  ∀ request s, ∃ a, (fs.answer request s).1 = .ok a

/-- A computation that makes requests and logs messages. -/
inductive Script (α : Type) where
  | done (value : α)
  | ask (request : Request) (next : request.Answer → Script α)
  | note (entry : LogEntry) (next : Script α)

/-- What became of a computation. -/
structure Outcome (σ α : Type) where
  result : Except Halt α
  state : σ
  log : List LogEntry

namespace Script

variable {α β σ : Type}

/-- One computation after another. -/
def bind (f : α → Script β) : Script α → Script β
  | done a => f a
  | ask r next => ask r fun a => bind f (next a)
  | note e next => note e (bind f next)

instance : Monad Script where
  pure := done
  bind x f := bind f x

/-- A single request. -/
def request (r : Request) : Script r.Answer := ask r done

/-- The files below a directory. -/
def walkFiles (root : String) : Script (Except String (List String)) := request (.walkFiles root)

def readText (path : String) : Script (Except String String) := request (.readText path)

def write (path text : String) : Script (Except String Unit) := request (.write path text)

/-- Whether something exists at a path. -/
def exists? (path : String) : Script Bool := request (.exists path)

/-- Logs messages. -/
def notes : List LogEntry → Script α → Script α
  | [], next => next
  | e :: es, next => note e (notes es next)

def log (level : Level) (message : String) : Script Unit := note ⟨level, message⟩ (done ())

/-- A computation that only logs. -/
def ofLogged (x : Logged α) : Script α := notes x.log (done x.value)

instance : MonadLift Logged Script := ⟨ofLogged⟩

/-- Runs a computation on a file system. -/
def run (fs : FileSystem σ) : Script α → σ → Outcome σ α
  | done a, s => ⟨.ok a, s, []⟩
  | ask r next, s =>
    match fs.answer r s with
    | (.ok a, s) => run fs (next a) s
    | (.error h, s) => ⟨.error h, s, []⟩
  | note e next, s =>
    let o := run fs next s
    { o with log := e :: o.log }

/-- The computations of a list in order. -/
def traverse (f : α → Script β) : List α → Script (List β)
  | [] => pure []
  | a :: as => do
    let b ← f a
    let bs ← traverse f as
    pure (b :: bs)

@[simp] theorem run_done (fs : FileSystem σ) (a : α) (s : σ) :
    (done a).run fs s = ⟨.ok a, s, []⟩ := rfl

@[simp] theorem run_pure (fs : FileSystem σ) (a : α) (s : σ) :
    (pure a : Script α).run fs s = ⟨.ok a, s, []⟩ := rfl

/-- A run of one computation after another continues where the first one ended. -/
theorem run_bind (fs : FileSystem σ) (x : Script α) (f : α → Script β) (s : σ) :
    (x >>= f).run fs s =
      match x.run fs s with
      | ⟨.ok a, s', log⟩ =>
        let o := (f a).run fs s'
        ⟨o.result, o.state, log ++ o.log⟩
      | ⟨.error h, s', log⟩ => ⟨.error h, s', log⟩ := by
  show (bind f x).run fs s = _
  induction x generalizing s with
  | done a => simp [bind, run]
  | ask r next ih =>
    simp only [bind, run]
    rcases h : fs.answer r s with ⟨a | a, s'⟩
    · rfl
    · exact ih a s'
  | note e next ih =>
    simp only [bind, run]
    rw [ih s]
    rcases next.run fs s with ⟨_ | _, _, _⟩ <;> rfl

instance : LawfulMonad Script := LawfulMonad.mk' Script
  (fun x => by
    show bind _ x = x
    induction x with
    | done a => rfl
    | ask r next ih => exact congrArg (ask r) (funext ih)
    | note e next ih => exact congrArg (note e) ih)
  (fun a f => rfl)
  (fun x f g => by
    show bind g (bind f x) = bind (fun a => bind g (f a)) x
    induction x with
    | done a => rfl
    | ask r next ih => exact congrArg (ask r) (funext ih)
    | note e next ih => exact congrArg (note e) ih)

end Script

end ServiceLinker
