import ServiceLinker.Proofs.CassetteReading
import ServiceLinker.Command.Basic
import ServiceLinker.FileSystem.Table

/-!
# Recording and replaying commands

A command that is recorded does what it does without the recording. The saved recording is loaded
again and replays the command to the same outcome, without the files that the command looked at.
-/

namespace ServiceLinker.Proofs

variable {σ α : Type}

/-- The time of a clock: the fields name a moment and the fraction stays below a second. -/
def IsClockTime (t : Timestamp) : Prop := t.isMoment = true ∧ t.nanosecond < 1000000000

/-- What a disk wrote to a path is what it reads there next. -/
def Keeps {δ : Type} (disk : FileSystem δ) (path : String) : Prop :=
  ∀ text d d', disk.answer (.write path text) d = (.ok (.ok ()), d') →
    ∃ d'', disk.answer (.readText path) d' = (.ok (.ok text), d'')

lemma fileTable_keeps (path : String) : Keeps FileTable.fileSystem path := by
  intro text d d' h
  simp only [FileTable.fileSystem, FileTable.answer] at h ⊢
  split at h
  · simp at h
  · rw [Prod.mk.injEq] at h
    rw [← h.2]
    exact ⟨_, by rw [FileTable.lookup_put_self]; rfl⟩

lemma load_of_save {δ : Type} {disk : FileSystem δ} {path : String} (hdisk : Keeps disk path)
    {c : Cassette} (hc : Cassette.ofText? c.toText = some c) {d d' : δ} {log : List LogEntry}
    (hsave : (c.save path).run disk d = ⟨.ok (.ok ()), d', log⟩) :
    ∃ d'', (Cassette.load path).run disk d' = ⟨.ok (.ok c), d'', []⟩ := by
  have hwrite : disk.answer (.write path c.toText) d = (.ok (.ok ()), d') := by
    rw [Cassette.save, Script.write, Script.request, Script.run] at hsave
    rcases h : disk.answer (.write path c.toText) d with ⟨e | a, t⟩
    · rw [h] at hsave
      cases hsave
    · rw [h] at hsave
      cases hsave
      rfl
  obtain ⟨d'', hread⟩ := hdisk c.toText d d' hwrite
  refine ⟨d'', ?_⟩
  rw [Cassette.load, Script.readText, run_bind_ok (run_request_ok hread)]
  simp only [hc, Script.run_pure, List.append_nil]

lemma ofText?_recorded (fs : FileSystem σ) (s : σ) (x : Script α) {name root : String}
    {now : Timestamp} (hnow : IsClockTime now)
    (hyaml : ReadsBack (x.run fs.recording (s, .start name root now)).state.2.toJson) :
    Cassette.ofText? (x.run fs.recording (s, .start name root now)).state.2.toText =
      some (x.run fs.recording (s, .start name root now)).state.2 := by
  rw [run_recording_cassette] at hyaml ⊢
  exact cassette_ofText?_toText (List.nil_append _) hnow.1 hnow.2 hyaml

/-- Recording changes neither the result of a command nor what it does to the files nor its
messages. Once the recording is saved and read back, replaying the command from it reaches the
same outcome, with the same messages, and uses up every recorded call. -/
theorem replay_of_recording {fs : FileSystem σ} (hfs : fs.Answers) (s : σ) (env : Environment)
    (command : Command) (name root : String) {now : Timestamp} (hnow : IsClockTime now) :
    let direct := (command.run env).run fs s
    let recorded := (command.run env).run fs.recording (s, .start name root now)
    let cassette := recorded.state.2
    (recorded.result = direct.result ∧ recorded.state.1 = direct.state ∧
        recorded.log = direct.log) ∧
      ∀ {δ : Type} (disk : FileSystem δ) (path : String) (d d' : δ) (log : List LogEntry),
        Keeps disk path → ReadsBack cassette.toJson →
        (cassette.save path).run disk d = ⟨.ok (.ok ()), d', log⟩ →
          ∃ outcome p d'', direct.result = .ok outcome ∧
            (Cassette.load path).run disk d' = ⟨.ok (.ok cassette), d'', []⟩ ∧
            (command.run env).run Replay.fileSystem (.ofCassette cassette) =
              ⟨.ok outcome, p, direct.log⟩ ∧
            p.remaining = 0 := by
  intro direct recorded cassette
  refine ⟨Script.run_recording fs (command.run env) s _, ?_⟩
  intro δ disk path d d' log hdisk hyaml hsave
  have hcalls : cassette.interactions = interactionsFrom 0 (callsOf fs (command.run env) s) := by
    change ((command.run env).run fs.recording (s, .start name root now)).state.2.interactions = _
    rw [run_recording_cassette]
    rfl
  obtain ⟨outcome, p, hdirect, hreplay, hleft⟩ :=
    replay_of_calls hfs (command.run env) s cassette hcalls
  obtain ⟨d'', hload⟩ := load_of_save hdisk (ofText?_recorded fs s (command.run env) hnow hyaml)
    hsave
  exact ⟨outcome, p, d'', hdirect, hload, hreplay, hleft⟩

/-! ### A run with a file that cannot be read -/

/-- The only file that is listed cannot be read. -/
def unreadTree : FileTable := ⟨.ok ["r/a.svc"], [("r/a.svc", .error "e")], []⟩

def linkCommand : Command := .link ⟨"r", none, none⟩ .text none false

def newYear : Timestamp := ⟨2024, 1, 1, 0, 0, 0, 0⟩

/-- A tape of the walk and of the failed read. -/
def unreadTape : Cassette :=
  ⟨"n", Cassette.currentVersion, newYear, "r",
    [⟨0, "fs", "walk_files", .object [("path", .text "r")],
        .object [("ok", .list [.text "r/a.svc"])]⟩,
      ⟨1, "fs", "read_to_string", .object [("path", .text "r/a.svc")],
        .object [("err", .text "e")]⟩]⟩

theorem unreadTape_readsBack : ReadsBack unreadTape.toJson := by decide +kernel

/-- The failure that was recorded shows in the report that is replayed. -/
theorem replay_of_recording_unreadTree :
    FileTable.fileSystem.Answers ∧ IsClockTime newYear ∧
      Keeps FileTable.fileSystem "c" ∧ ReadsBack unreadTape.toJson ∧
      ∃ outcome log p d'',
        (linkCommand.run fun _ => none).run FileTable.fileSystem unreadTree =
          ⟨.ok outcome, unreadTree, log⟩ ∧
        outcome.output = ["Diagnostics:\n  [UNREADABLE] cannot read r/a.svc: e\n\n" ++
          "0 resolved, 0 partial, 0 skipped."] ∧
        (Cassette.load "c").run FileTable.fileSystem ⟨.ok [], [("c", .ok unreadTape.toText)], []⟩ =
          ⟨.ok (.ok unreadTape), d'', []⟩ ∧
        (linkCommand.run fun _ => none).run Replay.fileSystem (.ofCassette unreadTape) =
          ⟨.ok outcome, p, log⟩ ∧
        p.remaining = 0 := by
  have hclock : IsClockTime newYear := ⟨by decide, by decide⟩
  have hkeeps := fileTable_keeps "c"
  have hsave : (unreadTape.save "c").run FileTable.fileSystem ⟨.ok [], [], []⟩ =
      ⟨.ok (.ok ()), ⟨.ok [], [("c", .ok unreadTape.toText)], []⟩, []⟩ := rfl
  obtain ⟨outcome, p, d'', hdirect, hload, hreplay, hleft⟩ :=
    (replay_of_recording FileTable.fileSystem_answers unreadTree (fun _ => none) linkCommand "n" "r"
      hclock).2 FileTable.fileSystem "c" ⟨.ok [], [], []⟩ _ [] hkeeps unreadTape_readsBack hsave
  refine ⟨FileTable.fileSystem_answers, hclock, hkeeps, unreadTape_readsBack, outcome, _, p, d'',
    ?_, ?_, hload, hreplay, hleft⟩
  · rw [← hdirect]
    rfl
  · cases hdirect
    rfl

end ServiceLinker.Proofs
