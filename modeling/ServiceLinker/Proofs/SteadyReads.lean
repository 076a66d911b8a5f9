import ServiceLinker.FileSystem.Table
import ServiceLinker.Proofs.ScriptRuns

/-!
# Runs that read the same text again

A run reads steadily if every read of a path is answered alike. What a script makes of such a run
follows from the answers alone, so that a script yields its value step by step.
-/

namespace ServiceLinker.Proofs

variable {σ α β : Type}

/-- Every path is read as given. -/
def ReadsAs (contents : String → Except String String) (calls : List Call) : Prop :=
  ∀ path answer, Call.mk (.readText path) answer ∈ calls → answer = contents path

lemma readsAs_append {contents : String → Except String String} {calls calls' : List Call} :
    ReadsAs contents (calls ++ calls') ↔ ReadsAs contents calls ∧ ReadsAs contents calls' := by
  constructor
  · intro h
    exact ⟨fun path answer hmem => h path answer (List.mem_append_left _ hmem),
      fun path answer hmem => h path answer (List.mem_append_right _ hmem)⟩
  · rintro ⟨h, h'⟩ path answer hmem
    exact (List.mem_append.mp hmem).elim (h path answer) (h' path answer)

/-- A run of the script that reads as given ends with the value. -/
def Yields (fs : FileSystem σ) (contents : String → Except String String) (x : Script α) (a : α) :
    Prop :=
  ∀ s, ReadsAs contents (callsOf fs x s) → ∃ s' log, x.run fs s = ⟨.ok a, s', log⟩

section

variable {fs : FileSystem σ} {contents : String → Except String String}

lemma yields_pure (a : α) : Yields fs contents (pure a) a :=
  fun s _ => ⟨s, [], rfl⟩

lemma yields_readText (hfs : fs.Answers) (path : String) :
    Yields fs contents (Script.readText path) (contents path) := by
  intro s hreads
  obtain ⟨a, ha⟩ := hfs (.readText path) s
  rcases h : fs.answer (.readText path) s with ⟨b, s'⟩
  rw [h] at ha
  dsimp only at ha
  subst ha
  unfold Script.readText at hreads ⊢
  rw [callsOf_request_ok h] at hreads
  rw [← hreads path a (List.mem_singleton_self _)]
  exact ⟨s', [], run_request_ok h⟩

lemma yields_bind (hfs : fs.Answers) {x : Script α} {f : α → Script β} {a : α} {b : β}
    (hx : Yields fs contents x a) (hf : Yields fs contents (f a) b) :
    Yields fs contents (x >>= f) b := by
  intro s hreads
  -- the calls of the first part are a beginning of all calls, however it ends
  have hfirst : ReadsAs contents (callsOf fs x s) := by
    obtain ⟨a', s', log, hrun⟩ := run_reaches_end hfs x s
    rw [callsOf_bind hrun, readsAs_append] at hreads
    exact hreads.1
  obtain ⟨s₁, log₁, hrun⟩ := hx s hfirst
  rw [callsOf_bind hrun, readsAs_append] at hreads
  obtain ⟨s₂, log₂, hrest⟩ := hf s₁ hreads.2
  exact ⟨s₂, log₁ ++ log₂, by rw [run_bind_ok hrun, hrest]⟩

lemma yields_traverse (hfs : fs.Answers) {γ : Type} {P : α → γ → Prop} {f : α → Script β}
    {g : γ → β} {as : List α}
    (h : ∀ a ∈ as, ∃ c, P a c ∧ Yields fs contents (f a) (g c)) :
    ∃ cs, List.Forall₂ P as cs ∧ Yields fs contents (Script.traverse f as) (cs.map g) := by
  induction as with
  | nil => exact ⟨[], .nil, yields_pure []⟩
  | cons a as ih =>
    obtain ⟨c, hac, hyields⟩ := h a List.mem_cons_self
    obtain ⟨cs, hcs, hrest⟩ := ih fun a' ha' => h a' (List.mem_cons_of_mem a ha')
    refine ⟨c :: cs, .cons hac hcs, ?_⟩
    unfold Script.traverse
    exact yields_bind hfs hyields (yields_bind hfs hrest (yields_pure _))

/-- A file system that reads a path alike in all its states reads steadily in every run. -/
lemma readsAs_callsOf
    (h : ∀ path s, (fs.answer (.readText path) s).1 = .ok (contents path)) (x : Script α) (s : σ) :
    ReadsAs contents (callsOf fs x s) := by
  induction x generalizing s with
  | done a => exact fun path answer hmem => absurd hmem List.not_mem_nil
  | note e next ih => exact ih s
  | ask r next ih =>
    rcases hanswer : fs.answer r s with ⟨e | a, s'⟩
    · rw [callsOf_ask_error hanswer]
      exact fun path answer hmem => absurd hmem List.not_mem_nil
    · rw [callsOf_ask_ok hanswer]
      intro path answer hmem
      rcases List.mem_cons.mp hmem with hcall | hmem
      · cases hcall
        have hread := h path s
        rw [hanswer] at hread
        exact Except.ok.inj hread
      · exact ih a s' path answer hmem

end

end ServiceLinker.Proofs
