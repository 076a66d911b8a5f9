import ServiceLinker.Proofs.ScriptRuns

/-!
# What a script can come to

The answers decide what a script does, wherever they come from. This file relates a script to the
calls that it can make and the value that it comes to with them, with the answers left open. A run
on any file system is such a course of calls, and a course of a sequence falls into courses of its
parts.
-/

namespace ServiceLinker.Proofs

variable {σ α β : Type}

/-- With the answers of the calls, the script makes these calls and ends with the value. -/
def Reaches : Script α → List Call → α → Prop
  | .done a, calls, b => calls = [] ∧ b = a
  | .ask r next, calls, b => ∃ a rest, calls = ⟨r, a⟩ :: rest ∧ Reaches (next a) rest b
  | .note _ next, calls, b => Reaches next calls b

lemma reaches_of_run {fs : FileSystem σ} {x : Script α} {s s' : σ} {b : α} {log : List LogEntry}
    (h : x.run fs s = ⟨.ok b, s', log⟩) : Reaches x (callsOf fs x s) b := by
  induction x generalizing s log with
  | done a =>
    cases h
    exact ⟨rfl, rfl⟩
  | ask r next ih =>
    rcases hanswer : fs.answer r s with ⟨e | a, t⟩
    · rw [Script.run, hanswer] at h
      cases h
    · rw [Script.run, hanswer] at h
      exact ⟨a, callsOf fs (next a) t, callsOf_ask_ok hanswer next, ih a h⟩
  | note e next ih =>
    rcases hnext : next.run fs s with ⟨result, t, rest⟩
    rw [Script.run, hnext] at h
    cases h
    exact ih hnext

/-- A file system that answers every request leads a script to one of its ends. -/
theorem exists_reached {fs : FileSystem σ} (hfs : fs.Answers) (x : Script α) (s : σ) :
    ∃ a s' log, x.run fs s = ⟨.ok a, s', log⟩ ∧ Reaches x (callsOf fs x s) a := by
  obtain ⟨a, s', log, hrun⟩ := run_reaches_end hfs x s
  exact ⟨a, s', log, hrun, reaches_of_run hrun⟩

lemma exists_of_reaches_bind {x : Script α} {f : α → Script β} {calls : List Call} {b : β}
    (h : Reaches (x >>= f) calls b) :
    ∃ a first rest, Reaches x first a ∧ Reaches (f a) rest b ∧ calls = first ++ rest := by
  induction x generalizing calls with
  | done a => exact ⟨a, [], calls, ⟨rfl, rfl⟩, h, rfl⟩
  | ask r next ih =>
    obtain ⟨answer, later, rfl, h⟩ := h
    obtain ⟨a, first, rest, hfirst, hrest, rfl⟩ := ih answer h
    exact ⟨a, ⟨r, answer⟩ :: first, rest, ⟨answer, first, rfl, hfirst⟩, hrest, rfl⟩
  | note e next ih => exact ih h

lemma exists_of_reaches_request {r : Request} {f : r.Answer → Script β} {calls : List Call} {b : β}
    (h : Reaches (Script.request r >>= f) calls b) :
    ∃ a rest, calls = ⟨r, a⟩ :: rest ∧ Reaches (f a) rest b := h

lemma value_of_reaches_ofLogged {x : Logged α} {calls : List Call} {a : α}
    (h : Reaches (Script.ofLogged x) calls a) : calls = [] ∧ a = x.value := by
  unfold Script.ofLogged at h
  generalize x.log = es at h
  induction es with
  | nil => exact h
  | cons e es ih => exact ih h

/-- The calls of a traversal are those of its members one after another. -/
lemma exists_of_reaches_traverse {f : α → Script β} {as : List α} {calls : List Call} {bs : List β}
    (h : Reaches (Script.traverse f as) calls bs) :
    ∃ parts : List (List Call × β), calls = parts.flatMap (·.1) ∧ bs = parts.map (·.2) ∧
      List.Forall₂ (fun a part => Reaches (f a) part.1 part.2) as parts := by
  induction as generalizing calls bs with
  | nil =>
    obtain ⟨rfl, rfl⟩ := h
    exact ⟨[], rfl, rfl, .nil⟩
  | cons a as ih =>
    unfold Script.traverse at h
    obtain ⟨b, first, later, hfirst, hlater, rfl⟩ := exists_of_reaches_bind h
    obtain ⟨rest, others, nothing, hothers, ⟨rfl, rfl⟩, rfl⟩ := exists_of_reaches_bind hlater
    obtain ⟨parts, rfl, rfl, hparts⟩ := ih hothers
    refine ⟨(first, b) :: parts, ?_, rfl, .cons hfirst hparts⟩
    rw [List.append_nil, List.flatMap_cons]

end ServiceLinker.Proofs
