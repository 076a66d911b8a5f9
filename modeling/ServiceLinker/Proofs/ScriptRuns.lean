import Mathlib
import ServiceLinker.FileSystem.Trace

/-!
# Runs and their calls

A script that runs on a file system which answers every request reaches its end. This file follows
such runs through sequencing and names the calls that a run makes.
-/

namespace ServiceLinker.Proofs

variable {σ α β : Type}

lemma run_request_ok {fs : FileSystem σ} {r : Request} {s s' : σ} {a : r.Answer}
    (h : fs.answer r s = (.ok a, s')) : (Script.request r).run fs s = ⟨.ok a, s', []⟩ := by
  rw [Script.request, Script.run, h]
  rfl

lemma run_bind_ok {fs : FileSystem σ} {x : Script α} {s s' : σ} {a : α} {log : List LogEntry}
    (h : x.run fs s = ⟨.ok a, s', log⟩) (f : α → Script β) :
    (x >>= f).run fs s =
      ⟨((f a).run fs s').result, ((f a).run fs s').state, log ++ ((f a).run fs s').log⟩ := by
  rw [Script.run_bind, h]

/-- A sequence that comes to its end has come to the end of its first part. -/
lemma exists_of_run_bind {fs : FileSystem σ} {x : Script α} {f : α → Script β} {s s' : σ} {b : β}
    {log : List LogEntry} (h : (x >>= f).run fs s = ⟨.ok b, s', log⟩) :
    ∃ a s₁ log₁ log₂, x.run fs s = ⟨.ok a, s₁, log₁⟩ ∧ (f a).run fs s₁ = ⟨.ok b, s', log₂⟩ ∧
      log = log₁ ++ log₂ := by
  rw [Script.run_bind] at h
  rcases hx : x.run fs s with ⟨e | a, s₁, log₁⟩
  · rw [hx] at h
    cases h
  · rw [hx] at h
    dsimp only at h
    rcases hf : (f a).run fs s₁ with ⟨result, s₂, log₂⟩
    rw [hf] at h
    cases h
    exact ⟨a, s₁, log₁, log₂, rfl, hf, rfl⟩

lemma run_map (fs : FileSystem σ) (g : α → β) (x : Script α) (s : σ) :
    (g <$> x).run fs s = ⟨(x.run fs s).result.map g, (x.run fs s).state, (x.run fs s).log⟩ := by
  rw [map_eq_pure_bind, Script.run_bind]
  rcases x.run fs s with ⟨e | a, s', log⟩
  · rfl
  · dsimp only
    rw [Script.run_pure, List.append_nil]
    rfl

@[simp] lemma run_log (fs : FileSystem σ) (level : Level) (message : String) (s : σ) :
    (Script.log level message).run fs s = ⟨.ok (), s, [⟨level, message⟩]⟩ := rfl

@[simp] lemma run_ofLogged (fs : FileSystem σ) (x : Logged α) (s : σ) :
    (Script.ofLogged x).run fs s = ⟨.ok x.value, s, x.log⟩ := by
  have h : ∀ es : List LogEntry,
      (Script.notes es (.done x.value)).run fs s = ⟨.ok x.value, s, es⟩ := by
    intro es
    induction es with
    | nil => rfl
    | cons e es ih => rw [Script.notes, Script.run, ih]
  exact h x.log

/-- A traversal whose steps give mapped values gives the mapped list. -/
lemma traverse_map {γ δ : Type} {f : α → Script β} {f' : γ → Script δ} {g : α → γ} {k : β → δ}
    (h : ∀ a, f' (g a) = k <$> f a) (as : List α) :
    Script.traverse f' (as.map g) = List.map k <$> Script.traverse f as := by
  induction as with
  | nil => rfl
  | cons a as ih =>
    rw [List.map_cons, Script.traverse, Script.traverse, h, ih]
    simp only [map_eq_pure_bind, bind_assoc, pure_bind, List.map_cons]

/-- On a file system that answers every request no script breaks off. -/
theorem run_reaches_end {fs : FileSystem σ} (hfs : fs.Answers) (x : Script α) (s : σ) :
    ∃ a s' log, x.run fs s = ⟨.ok a, s', log⟩ := by
  induction x generalizing s with
  | done a => exact ⟨a, s, [], rfl⟩
  | ask r next ih =>
    obtain ⟨a, ha⟩ := hfs r s
    rcases h : fs.answer r s with ⟨b, s'⟩
    rw [h] at ha
    dsimp only at ha
    subst ha
    obtain ⟨b, t, log, hrun⟩ := ih a s'
    exact ⟨b, t, log, by simp only [Script.run, h, hrun]⟩
  | note e next ih =>
    obtain ⟨a, s', log, hrun⟩ := ih s
    exact ⟨a, s', e :: log, by simp only [Script.run, hrun]⟩

/-! ### The calls of a run -/

/-- The calls that a run makes, in their order. -/
def callsOf (fs : FileSystem σ) (x : Script α) (s : σ) : List Call :=
  (x.run fs.traced (s, [])).state.2

lemma run_traced_calls (fs : FileSystem σ) (x : Script α) (s : σ) (calls : List Call) :
    (x.run fs.traced (s, calls)).state.2 = calls ++ callsOf fs x s := by
  unfold callsOf
  induction x generalizing s calls with
  | done a => simp
  | ask r next ih =>
    simp only [Script.run, FileSystem.traced]
    rcases fs.answer r s with ⟨h | a, s'⟩
    · simp
    · dsimp only
      rw [← FileSystem.traced, ih a s' (calls ++ [Call.mk r a]), ih a s' ([] ++ [Call.mk r a])]
      simp
  | note e next ih => exact ih s calls

@[simp] lemma callsOf_done (fs : FileSystem σ) (a : α) (s : σ) :
    callsOf fs (.done a) s = [] := rfl

@[simp] lemma callsOf_note (fs : FileSystem σ) (e : LogEntry) (next : Script α) (s : σ) :
    callsOf fs (.note e next) s = callsOf fs next s := rfl

lemma callsOf_ask_ok {fs : FileSystem σ} {r : Request} {s s' : σ} {a : r.Answer}
    (h : fs.answer r s = (.ok a, s')) (next : r.Answer → Script α) :
    callsOf fs (.ask r next) s = ⟨r, a⟩ :: callsOf fs (next a) s' := by
  have ht : fs.traced.answer r (s, []) = (.ok a, (s', [⟨r, a⟩])) := by
    simp only [FileSystem.traced, h, List.nil_append]
  rw [callsOf, Script.run, ht]
  exact run_traced_calls fs (next a) s' [⟨r, a⟩]

lemma callsOf_ask_error {fs : FileSystem σ} {r : Request} {s s' : σ} {e : Halt}
    (h : fs.answer r s = (.error e, s')) (next : r.Answer → Script α) :
    callsOf fs (.ask r next) s = [] := by
  have ht : fs.traced.answer r (s, []) = (.error e, (s', [])) := by
    simp only [FileSystem.traced, h]
  rw [callsOf, Script.run, ht]

lemma callsOf_request_ok {fs : FileSystem σ} {r : Request} {s s' : σ} {a : r.Answer}
    (h : fs.answer r s = (.ok a, s')) : callsOf fs (Script.request r) s = [⟨r, a⟩] := by
  rw [Script.request, callsOf_ask_ok h, callsOf_done]

lemma callsOf_ofLogged (fs : FileSystem σ) (x : Logged α) (s : σ) :
    callsOf fs (Script.ofLogged x) s = [] := by
  unfold Script.ofLogged
  induction x.log with
  | nil => rfl
  | cons e es ih => rw [Script.notes, callsOf_note, ih]

/-- A run of one script after another makes the calls of the first and then those of the second. -/
theorem callsOf_bind {fs : FileSystem σ} {x : Script α} {s s' : σ} {a : α} {log : List LogEntry}
    (h : x.run fs s = ⟨.ok a, s', log⟩) (f : α → Script β) :
    callsOf fs (x >>= f) s = callsOf fs x s ++ callsOf fs (f a) s' := by
  obtain ⟨hr, hs, hl⟩ := Script.run_traced fs x s []
  rcases ht : x.run fs.traced (s, []) with ⟨b, ⟨t, calls⟩, log'⟩
  rw [ht, h] at hr hs hl
  dsimp only at hr hs hl
  subst hr hs hl
  have hx : callsOf fs x s = calls := by rw [callsOf, ht]
  rw [hx, callsOf, run_bind_ok ht]
  exact run_traced_calls fs (f a) t calls

end ServiceLinker.Proofs
