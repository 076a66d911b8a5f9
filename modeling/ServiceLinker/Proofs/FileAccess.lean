import ServiceLinker.Proofs.LinkOutcomes
import ServiceLinker.Proofs.ReplaySimulation
import ServiceLinker.FileSystem.Table

/-!
# What a link asks of a file system

Of the settings of a run, only the two extensions bear on what is listed and read; the contract
marker and the ambiguity policy bear on what is made of it. A recording under one marker and policy
therefore serves a run under any other.
-/

namespace ServiceLinker.Proofs

open SourceIndex (candidates)

variable {σ α β : Type}

/-- A script whose second part makes no calls makes those of its first part, even if the file
system breaks off. -/
lemma callsOf_bind_silent {fs : FileSystem σ} {f : α → Script β}
    (hf : ∀ a s, callsOf fs (f a) s = []) (x : Script α) (s : σ) :
    callsOf fs (x >>= f) s = callsOf fs x s := by
  change callsOf fs (Script.bind f x) s = _
  induction x generalizing s with
  | done a => exact hf a s
  | ask r next ih =>
    rw [Script.bind]
    rcases h : fs.answer r s with ⟨e | a, s'⟩
    · rw [callsOf_ask_error h, callsOf_ask_error h]
    · rw [callsOf_ask_ok h, callsOf_ask_ok h, ih a s']
  | note e next ih => exact ih s

lemma callsOf_linkTree (fs : FileSystem σ) (root : String) (c : Config) (s : σ) :
    callsOf fs (linkTree root c) s = callsOf fs (SourceIndex.build root c) s := by
  refine callsOf_bind_silent ?_ _ s
  intro built s'
  cases built with
  | error e => rfl
  | ok built =>
    have hlink := run_ofLogged fs (link built.1 c) s'
    dsimp only
    rw [callsOf_bind hlink, callsOf_ofLogged]
    rfl

section

variable {c c' : Config} (hdescriptor : c.descriptorExtension = c'.descriptorExtension)
  (hdeclaration : c.declarationExtension = c'.declarationExtension)

include hdescriptor hdeclaration

lemma candidates_congr (seen paths : List String) :
    candidates c seen paths = candidates c' seen paths := by
  have hrole : c.role? = c'.role? := by
    funext p
    rw [Config.role?, Config.role?, hdescriptor, hdeclaration]
  induction paths generalizing seen with
  | nil => rfl
  | cons p paths ih =>
    unfold candidates
    rw [hrole]
    cases c'.role? p with
    | none => exact ih seen
    | some role =>
      dsimp only
      rw [ih seen, ih (p :: seen)]

lemma build_congr (root : String) : SourceIndex.build root c = SourceIndex.build root c' := by
  have hcandidates : candidates c [] = candidates c' [] :=
    funext (candidates_congr hdescriptor hdeclaration [])
  unfold SourceIndex.build
  rw [hcandidates]

/-- The files that a link looks at depend on the extensions only. Settings with equal extensions
index a tree by one and the same script, which makes all calls of the link, and the recording of
a link under one of them replays the link under the other to its own outcome. -/
theorem linkTree_access_by_extensions (fs : FileSystem σ) (root : String) (s : σ) :
    SourceIndex.build root c = SourceIndex.build root c' ∧
      callsOf fs (linkTree root c) s = callsOf fs (linkTree root c') s ∧
      callsOf fs (linkTree root c) s = callsOf fs (SourceIndex.build root c) s ∧
      (fs.Answers → ∀ (name source : String) (now : Timestamp),
        let recorded := (linkTree root c).run fs.recording (s, .start name source now)
        let direct := (linkTree root c').run fs s
        ∃ outcome p, direct.result = .ok outcome ∧
          (linkTree root c').run Replay.fileSystem (.ofCassette recorded.state.2) =
            ⟨.ok outcome, p, direct.log⟩ ∧
          p.remaining = 0) := by
  have hbuild := build_congr hdescriptor hdeclaration root
  have hcalls : callsOf fs (linkTree root c) s = callsOf fs (linkTree root c') s := by
    rw [callsOf_linkTree, callsOf_linkTree, hbuild]
  refine ⟨hbuild, hcalls, callsOf_linkTree fs root c s, ?_⟩
  intro hfs name source now recorded direct
  apply replay_of_calls hfs (linkTree root c') s
  change ((linkTree root c).run fs.recording (s, .start name source now)).state.2.interactions = _
  rw [run_recording_cassette, hcalls]
  rfl

end

/-- A service whose class is declared twice. -/
def doubledClass : FileTable :=
  ⟨.ok ["A.svc", "a/A.cs", "b/A.cs"],
    [("A.svc", .ok "Service=\x22A\x22"), ("a/A.cs", .ok "class A : IA"),
      ("b/A.cs", .ok "class A : IA")], []⟩

def strictConfig : Config := ⟨"svc", "cs", "M", .error⟩

/-- A recording under the lenient policy replays a strict link, which refuses both classes. -/
theorem linkTree_access_by_extensions_doubledClass :
    Config.default.descriptorExtension = strictConfig.descriptorExtension ∧
      Config.default.declarationExtension = strictConfig.declarationExtension ∧
      FileTable.fileSystem.Answers ∧
      let recorded := (linkTree "r" .default).run FileTable.fileSystem.recording
        (doubledClass, .start "n" "r" ⟨2024, 1, 1, 0, 0, 0, 0⟩)
      ∃ p report, (linkTree "r" strictConfig).run Replay.fileSystem
          (.ofCassette recorded.state.2) =
            ⟨.ok (.ok report), p, ((linkTree "r" strictConfig).run FileTable.fileSystem
              doubledClass).log⟩ ∧
        report.records.map (·.implementationPath) = [none] ∧ p.remaining = 0 := by
  have hdescriptor : Config.default.descriptorExtension = strictConfig.descriptorExtension := rfl
  have hdeclaration : Config.default.declarationExtension = strictConfig.declarationExtension := rfl
  refine ⟨hdescriptor, hdeclaration, FileTable.fileSystem_answers, ?_⟩
  intro recorded
  obtain ⟨outcome, p, hdirect, hreplay, hleft⟩ :=
    (linkTree_access_by_extensions hdescriptor hdeclaration FileTable.fileSystem "r"
      doubledClass).2.2.2 FileTable.fileSystem_answers "n" "r" ⟨2024, 1, 1, 0, 0, 0, 0⟩
  have hrecords : ((linkTree "r" strictConfig).run FileTable.fileSystem
      doubledClass).result.toOption.bind (·.toOption.map fun report =>
        report.records.map (·.implementationPath)) = some [none] := by
    decide +kernel
  rw [hdirect] at hrecords
  cases outcome with
  | error e => cases hrecords
  | ok report => exact ⟨p, report, hreplay, Option.some.inj hrecords, hleft⟩

end ServiceLinker.Proofs
