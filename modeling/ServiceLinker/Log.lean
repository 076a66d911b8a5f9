/-!
# Log messages

A computation that only logs returns its value together with its messages in the order in which
they were made, so that the value can be reasoned about on its own.
-/

namespace ServiceLinker

/-- How urgent a message is. -/
inductive Level where
  | debug
  | info
  | warn
  deriving DecidableEq, Repr

/-- The name of a level. -/
def Level.label : Level → String
  | .debug => "DEBUG"
  | .info => "INFO"
  | .warn => "WARN"

/-- One log message. -/
structure LogEntry where
  level : Level
  message : String
  deriving DecidableEq, Repr

/-- A value and the messages logged while it was computed. -/
structure Logged (α : Type) where
  value : α
  log : List LogEntry

namespace Logged

/-- A single message. -/
def note (level : Level) (message : String) : Logged Unit := ⟨(), [⟨level, message⟩]⟩

instance : Monad Logged where
  pure a := ⟨a, []⟩
  bind x f := let y := f x.value; ⟨y.value, x.log ++ y.log⟩

@[simp] theorem value_pure (a : α) : (pure a : Logged α).value = a := rfl
@[simp] theorem log_pure (a : α) : (pure a : Logged α).log = [] := rfl
@[simp] theorem value_bind (x : Logged α) (f : α → Logged β) :
    (x >>= f).value = (f x.value).value := rfl
@[simp] theorem log_bind (x : Logged α) (f : α → Logged β) :
    (x >>= f).log = x.log ++ (f x.value).log := rfl
@[simp] theorem log_note (level : Level) (message : String) :
    (note level message).log = [⟨level, message⟩] := rfl

@[simp] theorem value_map (f : α → β) (x : Logged α) : (f <$> x).value = f x.value := rfl
@[simp] theorem log_map (f : α → β) (x : Logged α) : (f <$> x).log = x.log := by
  simp [Functor.map]

instance : LawfulMonad Logged := LawfulMonad.mk' Logged
  (fun x => by cases x; simp [Functor.map])
  (fun a f => by simp [bind, pure])
  (fun x f g => by simp [bind, List.append_assoc])

/-- The values of a list in order, each computed with its own messages. -/
def traverse (f : α → Logged β) : List α → Logged (List β)
  | [] => pure []
  | a :: as => do
    let b ← f a
    let bs ← traverse f as
    pure (b :: bs)

@[simp] theorem value_traverse (f : α → Logged β) (as : List α) :
    (traverse f as).value = as.map fun a => (f a).value := by
  induction as with
  | nil => rfl
  | cons a as ih => simp [traverse, ih]

@[simp] theorem log_traverse (f : α → Logged β) (as : List α) :
    (traverse f as).log = as.flatMap fun a => (f a).log := by
  induction as with
  | nil => rfl
  | cons a as ih => simp [traverse, ih]

end Logged

end ServiceLinker
