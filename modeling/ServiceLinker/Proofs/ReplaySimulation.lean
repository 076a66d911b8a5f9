import ServiceLinker.Proofs.ScriptRuns
import ServiceLinker.Cassette.Replay

/-!
# Replaying the calls of a run

The cassette that a run records lists exactly the calls of the run. This file compares a run with
its replay: a script that is replayed from its own calls gets the same answers one by one, for
arbitrary calls that the cassette lists behind them.
-/

namespace ServiceLinker.Proofs

variable {σ α : Type}

/-- The calls of a run as a cassette lists them, numbered from `k` on. -/
def interactionsFrom : Nat → List Call → List Interaction
  | _, [] => []
  | k, call :: calls =>
    ⟨k, Request.port, call.request.method, call.request.input, call.request.output call.answer⟩ ::
      interactionsFrom (k + 1) calls

lemma exists_call_of_mem_interactionsFrom {k : Nat} {calls : List Call} {x : Interaction}
    (h : x ∈ interactionsFrom k calls) :
    ∃ call ∈ calls, x.input = call.request.input ∧
      x.output = call.request.output call.answer := by
  induction calls generalizing k with
  | nil => cases h
  | cons call calls ih =>
    rw [interactionsFrom, List.mem_cons] at h
    rcases h with rfl | h
    · exact ⟨call, List.mem_cons_self, rfl, rfl⟩
    · obtain ⟨c, hc, hx⟩ := ih h
      exact ⟨c, List.mem_cons_of_mem _ hc, hx⟩

/-- A recording lists the calls of the run behind those that the cassette had before. -/
theorem run_recording_cassette (fs : FileSystem σ) (x : Script α) (s : σ) (c : Cassette) :
    (x.run fs.recording (s, c)).state.2 =
      { c with interactions :=
          c.interactions ++ interactionsFrom c.interactions.length (callsOf fs x s) } := by
  induction x generalizing s c with
  | done a => simp [Script.run, interactionsFrom]
  | ask r next ih =>
    rcases h : fs.answer r s with ⟨e | a, s'⟩
    · rw [callsOf_ask_error h]
      simp only [Script.run, FileSystem.recording, h, interactionsFrom, List.append_nil]
    · have hr : fs.recording.answer r (s, c) =
          (.ok a, (s', c.push Request.port r.method r.input (r.output a))) := by
        simp only [FileSystem.recording, h]
      rw [callsOf_ask_ok h, Script.run, hr]
      dsimp only
      rw [ih a s']
      simp only [Cassette.push, interactionsFrom, List.length_append, List.length_cons,
        List.length_nil, List.append_assoc, List.cons_append, List.nil_append, Nat.zero_add]
  | note e next ih => exact ih s c

/-! ### Replaying -/

/-- A replay whose next call is one of the requested method serves that call. -/
lemma replay_answer {p : Replay} (hp : p.diverged = false) (r : Request) (a : r.Answer) (k : Nat)
    {rest : List Interaction}
    (hq : p.replayer.pending = ⟨k, Request.port, r.method, r.input, r.output a⟩ :: rest) :
    Replay.fileSystem.answer r p =
      (.ok a, ⟨{ p.replayer with pending := rest, lastServed := some k }, false⟩) := by
  have hnext : p.replayer.next Request.port r.method =
      (.ok ⟨k, Request.port, r.method, r.input, r.output a⟩,
        { p.replayer with pending := rest, lastServed := some k }) := by
    rw [Replayer.next, hq]
    simp only [Interaction.takeFirst?, Interaction.pair, if_true]
  have hout : p.nextOutput r =
      (.ok (r.output a), ⟨{ p.replayer with pending := rest, lastServed := some k }, false⟩) := by
    rw [Replay.nextOutput, hp, hnext]
    rfl
  simp only [Replay.fileSystem, hout, Replay.decode_output]

/-- A run that is replayed from its own calls makes the same calls, has the same result and the same
messages, and leaves exactly the calls behind its own. -/
theorem run_replay {fs : FileSystem σ} (hfs : fs.Answers) (x : Script α) (s : σ) (k : Nat)
    (rest : List Interaction) (p : Replay) (hp : p.diverged = false)
    (hq : p.replayer.pending = interactionsFrom k (callsOf fs x s) ++ rest) :
    ∃ p', x.run Replay.fileSystem p = ⟨(x.run fs s).result, p', (x.run fs s).log⟩ ∧
      callsOf Replay.fileSystem x p = callsOf fs x s ∧
      p'.diverged = false ∧ p'.replayer.pending = rest := by
  induction x generalizing s k p with
  | done a => exact ⟨p, rfl, rfl, hp, hq⟩
  | ask r next ih =>
    obtain ⟨a, ha⟩ := hfs r s
    rcases h : fs.answer r s with ⟨b, s'⟩
    rw [h] at ha
    dsimp only at ha
    subst ha
    rw [callsOf_ask_ok h, interactionsFrom, List.cons_append] at hq
    -- the replay serves by method only, but the first pending call is the one that is asked for
    have hserve := replay_answer hp r a k hq
    obtain ⟨p', hrun, hcalls, hd, hr⟩ := ih a s' (k + 1)
      ⟨{ p.replayer with
          pending := interactionsFrom (k + 1) (callsOf fs (next a) s') ++ rest
          lastServed := some k }, false⟩ rfl rfl
    rw [callsOf_ask_ok h, callsOf_ask_ok hserve]
    simp only [Script.run, h, hserve]
    exact ⟨p', hrun, congrArg (_ :: ·) hcalls, hd, hr⟩
  | note e next ih =>
    obtain ⟨p', hrun, hcalls, hd, hr⟩ := ih s k p hp hq
    exact ⟨p', by simp only [Script.run, hrun], hcalls, hd, hr⟩

/-- A run and its replay from a cassette that lists the calls of the run and no others: the replay
reaches the end of the run, and no call is left over. -/
theorem replay_of_calls {fs : FileSystem σ} (hfs : fs.Answers) (x : Script α) (s : σ)
    (c : Cassette) (hc : c.interactions = interactionsFrom 0 (callsOf fs x s)) :
    ∃ a p, (x.run fs s).result = .ok a ∧
      x.run Replay.fileSystem (.ofCassette c) = ⟨.ok a, p, (x.run fs s).log⟩ ∧
      p.remaining = 0 := by
  obtain ⟨a, s', log, hrun⟩ := run_reaches_end hfs x s
  obtain ⟨p, hreplay, -, -, hleft⟩ := run_replay hfs x s 0 [] (.ofCassette c) rfl
    (by rw [List.append_nil]; exact hc)
  rw [hrun] at hreplay ⊢
  refine ⟨a, p, rfl, hreplay, ?_⟩
  rw [Replay.remaining, Replayer.remaining, hleft, List.length_nil]

end ServiceLinker.Proofs
