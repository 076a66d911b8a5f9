import ServiceLinker.FileSystem.Table
import ServiceLinker.Proofs.ReplaySimulation
import ServiceLinker.Proofs.ScriptOutcomes

/-!
# Recording a replay

A recording can be recorded again while it answers the calls it was made from. Every recorded
answer is decoded to the answer that was recorded, the calls come in the same order, and so the
second recording lists what the first one lists.
-/

namespace ServiceLinker.Proofs

variable {σ α : Type}

/-! ### Recordings of a run -/

lemma seq_interactionsFrom (k : Nat) (calls : List Call) :
    (interactionsFrom k calls).map (·.seq) = List.range' k calls.length := by
  induction calls generalizing k with
  | nil => rfl
  | cons call calls ih =>
    rw [interactionsFrom, List.map_cons, ih, List.length_cons, List.range'_succ]

lemma interactions_recorded (fs : FileSystem σ) (x : Script α) (s : σ) (name root : String)
    (now : Timestamp) :
    (x.run fs.recording (s, .start name root now)).state.2.interactions =
      interactionsFrom 0 (callsOf fs x s) := by
  rw [run_recording_cassette]
  rfl

/-- A script that runs on its own recording is recorded with the same calls, and with no call left
over. -/
theorem run_recording_replay {fs : FileSystem σ} (hfs : fs.Answers) (x : Script α) (s : σ)
    {tape : Cassette} (htape : tape.interactions = interactionsFrom 0 (callsOf fs x s))
    (name root : String) (now : Timestamp) :
    let second := x.run Replay.fileSystem.recording (.ofCassette tape, .start name root now)
    second.result = (x.run fs s).result ∧
      second.state.2.interactions = tape.interactions ∧ second.state.1.remaining = 0 := by
  intro second
  obtain ⟨p, hreplay, hcalls, -, hleft⟩ := run_replay hfs x s 0 [] (.ofCassette tape) rfl
    (by rw [List.append_nil]; exact htape)
  obtain ⟨hresult, hstate, -⟩ := Script.run_recording Replay.fileSystem x (.ofCassette tape)
    (.start name root now)
  refine ⟨?_, ?_, ?_⟩
  · rw [hresult, hreplay]
  · rw [interactions_recorded, hcalls, htape]
  · rw [hstate, hreplay, Replay.remaining, Replayer.remaining, hleft, List.length_nil]

/-! ### Requests one after another -/

/-- A request together with the answer that it gets. -/
def requestCall (r : Request) : Script Call := do
  let a ← Script.request r
  pure ⟨r, a⟩

/-- Makes requests one after another, and gives the calls that they become. -/
def requestAll (rs : List Request) : Script (List Call) := Script.traverse requestCall rs

lemma calls_of_reaches_requestCall {r : Request} {calls : List Call} {call : Call}
    (h : Reaches (requestCall r) calls call) : calls = [call] ∧ call.request = r := by
  unfold requestCall at h
  obtain ⟨a, nothing, rfl, rfl, rfl⟩ := exists_of_reaches_request h
  exact ⟨rfl, rfl⟩

lemma calls_of_reaches_requestAll {rs : List Request} {calls value : List Call}
    (h : Reaches (requestAll rs) calls value) : value = calls ∧ calls.map (·.request) = rs := by
  obtain ⟨parts, rfl, rfl, hparts⟩ := exists_of_reaches_traverse h
  clear h
  induction hparts with
  | nil => exact ⟨rfl, rfl⟩
  | @cons r part rs parts hpart _ ih =>
    obtain ⟨hcalls, hrequest⟩ := calls_of_reaches_requestCall hpart
    obtain ⟨hvalue, hrequests⟩ := ih
    rw [List.map_cons, List.flatMap_cons, hcalls, List.singleton_append, List.map_cons, hvalue,
      hrequest, hrequests]
    exact ⟨rfl, rfl⟩

/-- Requests are recorded over a file system, and recorded again while the first recording answers
them. They get the same answers, and the second recording lists the same calls as the first, which
are numbered without gaps and all used up. -/
theorem rerecording_lists_same {fs : FileSystem σ} (hfs : fs.Answers) (rs : List Request) (s : σ)
    (name root name' root' : String) (now now' : Timestamp) :
    let first := (requestAll rs).run fs.recording (s, .start name root now)
    let tape := first.state.2
    let second := (requestAll rs).run Replay.fileSystem.recording
      (.ofCassette tape, .start name' root' now')
    ∃ calls, first.result = .ok calls ∧ second.result = .ok calls ∧
      calls.map (·.request) = rs ∧
      second.state.2.interactions = tape.interactions ∧
      tape.interactions = interactionsFrom 0 calls ∧
      tape.interactions.map (·.seq) = List.range rs.length ∧
      second.state.1.remaining = 0 := by
  intro first tape second
  obtain ⟨calls, s', log, hrun, hreached⟩ := exists_reached hfs (requestAll rs) s
  obtain ⟨hcalls, hrequests⟩ := calls_of_reaches_requestAll hreached
  have hresult : first.result = .ok calls := by
    obtain ⟨hsame, -, -⟩ := Script.run_recording fs (requestAll rs) s (.start name root now)
    rw [hrun] at hsame
    exact hsame
  have htape : tape.interactions = interactionsFrom 0 (callsOf fs (requestAll rs) s) :=
    interactions_recorded fs (requestAll rs) s name root now
  obtain ⟨hagain, hinteractions, hleft⟩ :=
    run_recording_replay hfs (requestAll rs) s htape name' root' now'
  rw [hrun] at hagain
  rw [← hcalls] at htape hrequests
  have hlength : calls.length = rs.length := by
    rw [← hrequests, List.length_map]
  refine ⟨calls, hresult, hagain, hrequests, hinteractions, htape, ?_, hleft⟩
  rw [htape, seq_interactionsFrom, hlength, List.range_eq_range']

/-- Files of which one cannot be read, and a path that cannot be written. -/
def guardedTable : FileTable :=
  ⟨.ok ["a", "b"], [("a", .ok "x"), ("b", .error "denied")], [("c", "full")]⟩

/-- Requests of every kind, with answers and failures. -/
def mixedRequests : List Request :=
  [.exists "c", .walkFiles "r", .readText "b", .write "c" "y", .write "a" "z", .readText "a",
    .exists "a"]

theorem rerecording_lists_same_guardedTable :
    FileTable.fileSystem.Answers ∧
      let first := (requestAll mixedRequests).run FileTable.fileSystem.recording
        (guardedTable, .start "n" "r" ⟨2024, 1, 1, 0, 0, 0, 0⟩)
      let second := (requestAll mixedRequests).run Replay.fileSystem.recording
        (.ofCassette first.state.2, .start "m" "q" ⟨2025, 1, 1, 0, 0, 0, 0⟩)
      second.state.2.interactions = first.state.2.interactions ∧
        second.state.2.interactions.map (·.seq) = [0, 1, 2, 3, 4, 5, 6] ∧
        second.state.1.remaining = 0 := by
  obtain ⟨calls, -, -, -, hsame, -, hseq, hleft⟩ :=
    rerecording_lists_same FileTable.fileSystem_answers mixedRequests guardedTable "n" "r" "m" "q"
      ⟨2024, 1, 1, 0, 0, 0, 0⟩ ⟨2025, 1, 1, 0, 0, 0, 0⟩
  refine ⟨FileTable.fileSystem_answers, hsame, ?_, hleft⟩
  rw [hsame, hseq]
  rfl

end ServiceLinker.Proofs
