import ServiceLinker.Bundle.Writing
import ServiceLinker.FileSystem.Table
import ServiceLinker.Proofs.BundleNames
import ServiceLinker.Proofs.ScriptRuns

/-!
# Bundles of one run

On a file system that keeps what is written to it, every bundle of a run ends up in a file of its
own. The run lemma follows the names that are taken: a name that is handed out is free, so that a
later write cannot reach the file of an earlier bundle.
-/

namespace ServiceLinker.Proofs

open ServiceBundle (writeBeside writeAll chooseName)

variable {σ : Type}

/-- From the states in `ready` on, the file system keeps each text at the path to which it is
written and changes no other path. Texts with the same components are one path. -/
structure Stores (fs : FileSystem σ) (ready : σ → Prop) (text : σ → String → Option String) :
    Prop where
  exists_answer : ∀ path s, ready s → ∃ found s', fs.answer (.exists path) s = (.ok found, s') ∧
    ready s' ∧ ∀ other, text s' other = text s other
  write_answer : ∀ path content s, ready s →
    ∃ s', fs.answer (.write path content) s = (.ok (.ok ()), s') ∧ ready s' ∧
      text s' path = some content ∧
      ∀ other, Path.components other ≠ Path.components path → text s' other = text s other

section

variable {fs : FileSystem σ} {ready : σ → Prop} {text : σ → String → Option String}

lemma run_writeTo (h : Stores fs ready text) (b : ServiceBundle) (path : String) {s : σ}
    (hs : ready s) : ∃ s' log, (b.writeTo path).run fs s = ⟨.ok (.ok ()), s', log⟩ ∧ ready s' ∧
      text s' path = some b.toText ∧
      ∀ other, Path.components other ≠ Path.components path → text s' other = text s other := by
  obtain ⟨found, s₁, hexists, hs₁, hkept⟩ := h.exists_answer path s hs
  obtain ⟨s₂, hwrite, hs₂, hpath, hother⟩ := h.write_answer path b.toText s₁ hs₁
  have hwritten : (Script.write path b.toText).run fs s₁ = ⟨.ok (.ok ()), s₂, []⟩ :=
    run_request_ok hwrite
  have hrun : ∃ log, (b.writeTo path).run fs s = ⟨.ok (.ok ()), s₂, log⟩ := by
    unfold ServiceBundle.writeTo Script.exists?
    rw [run_bind_ok (run_request_ok hexists)]
    cases found with
    | true =>
      dsimp only
      rw [if_pos rfl, run_bind_ok (run_log ..), run_bind_ok hwritten]
      exact ⟨_, rfl⟩
    | false =>
      dsimp only
      rw [if_neg Bool.false_ne_true, run_bind_ok hwritten]
      exact ⟨_, rfl⟩
  obtain ⟨log, hrun⟩ := hrun
  refine ⟨s₂, log, hrun, hs₂, hpath, ?_⟩
  intro other hne
  rw [hother other hne, hkept other]

lemma value_chooseName (b : ServiceBundle) (taken : List String) :
    (b.chooseName taken).value = b.freeName taken := by
  unfold ServiceBundle.chooseName
  split_ifs <;> rfl

lemma run_chooseName (fs : FileSystem σ) (b : ServiceBundle) (taken : List String) (s : σ) :
    ∃ log, (Script.ofLogged (b.chooseName taken)).run fs s = ⟨.ok (b.freeName taken), s, log⟩ := by
  rw [run_ofLogged, value_chooseName]
  exact ⟨_, rfl⟩

/-- Bundles that are written beside taken names get names of their own, and no file that has
another name below the directory changes. -/
lemma run_writeBeside (h : Stores fs ready text) (directory : String) (bs : List ServiceBundle)
    (taken : List String) {s : σ} (hs : ready s) :
    ∃ names s' log,
      (writeBeside directory taken bs).run fs s =
        ⟨.ok (.ok (names.map (Path.join directory))), s', log⟩ ∧ ready s' ∧
      names.Nodup ∧ (∀ name ∈ names, name ∉ taken ∧ IsFileName name.toList) ∧
      List.Forall₂ (fun name b => text s' (Path.join directory name) = some b.toText) names bs ∧
      ∀ other, (∀ name ∈ names,
        Path.components other ≠ Path.components (Path.join directory name)) →
          text s' other = text s other := by
  induction bs generalizing taken s with
  | nil =>
    exact ⟨[], s, [], rfl, hs, List.nodup_nil, fun _ hname => absurd hname List.not_mem_nil,
      .nil, fun _ _ => rfl⟩
  | cons b bs ih =>
    let name := b.freeName taken
    have hname : IsFileName name.toList := isFileName_freeName taken b
    obtain ⟨log₀, hchoose⟩ := run_chooseName fs b taken s
    obtain ⟨s₁, log₁, hwrite, hs₁, hpath, hother⟩ := run_writeTo h b (Path.join directory name) hs
    obtain ⟨names, s₂, log₂, hrun, hs₂, hnodup, hfresh, hstored, hkept⟩ := ih (name :: taken) hs₁
    -- the names that follow avoid this one, and so do the paths
    have hapart : ∀ later ∈ names,
        Path.components (Path.join directory name) ≠
          Path.components (Path.join directory later) := by
      intro later hlater heq
      obtain ⟨hfree, hlaterName⟩ := hfresh later hlater
      have hsame := components_join_injOn directory hname hlaterName heq
      exact hfree (hsame ▸ List.mem_cons_self)
    have hnew : name ∉ names := fun hmem => (hfresh name hmem).1 List.mem_cons_self
    refine ⟨name :: names, s₂, log₀ ++ (log₁ ++ (log₂ ++ [])), ?_, hs₂,
      List.nodup_cons.mpr ⟨hnew, hnodup⟩, ?_, ?_, ?_⟩
    · unfold ServiceBundle.writeBeside
      rw [run_bind_ok hchoose]
      dsimp only
      rw [run_bind_ok hwrite]
      dsimp only
      rw [run_bind_ok hrun]
      rfl
    · intro later hlater
      rcases List.mem_cons.mp hlater with rfl | hlater
      · exact ⟨freeName_notMem taken b, hname⟩
      · obtain ⟨hfree, hlaterName⟩ := hfresh later hlater
        exact ⟨fun hmem => hfree (List.mem_cons_of_mem name hmem), hlaterName⟩
    · refine .cons ?_ hstored
      rw [hkept _ hapart]
      exact hpath
    · intro other hne
      rw [hkept other fun later hlater => hne later (List.mem_cons_of_mem name hlater)]
      exact hother other (hne name List.mem_cons_self)

end

/-- Bundles of one run never overwrite each other: there is one path for each of them, the paths
are different, and after the run each path holds the text of its bundle. -/
theorem writeAll_keeps_apart {fs : FileSystem σ} {ready : σ → Prop}
    {text : σ → String → Option String} (h : Stores fs ready text) (directory : String)
    (bs : List ServiceBundle) {s : σ} (hs : ready s) :
    ∃ paths s' log, (writeAll directory bs).run fs s = ⟨.ok (.ok paths), s', log⟩ ∧
      paths.length = bs.length ∧ (paths.map Path.components).Nodup ∧
      List.Forall₂ (fun path b => text s' path = some b.toText) paths bs := by
  obtain ⟨names, s', log, hrun, -, hnodup, hfresh, hstored, -⟩ :=
    run_writeBeside h directory bs [] hs
  refine ⟨names.map (Path.join directory), s', log, hrun, ?_, ?_, ?_⟩
  · rw [List.length_map]
    exact hstored.length_eq
  · rw [List.map_map]
    refine hnodup.map_on ?_
    intro name hname name' hname' heq
    exact components_join_injOn directory (hfresh name hname).2 (hfresh name' hname').2 heq
  · exact List.forall₂_map_left_iff.mpr hstored

/-! ### Tables without refusals -/

/-- The text that a table has at a path. -/
def tableText (t : FileTable) (path : String) : Option String :=
  (t.files.lookup path).bind Except.toOption

lemma stores_table : Stores FileTable.fileSystem (fun t => t.refusals = []) tableText where
  exists_answer path t ht := ⟨_, t, rfl, ht, fun _ => rfl⟩
  write_answer path content t ht := by
    have hanswer : FileTable.fileSystem.answer (.write path content) t =
        (.ok (.ok ()), { t with files := FileTable.put path (.ok content) t.files }) := by
      simp only [FileTable.fileSystem, FileTable.answer, ht, List.lookup_nil]
    refine ⟨_, hanswer, ht, ?_, ?_⟩
    · rw [tableText, FileTable.lookup_put_self]
      rfl
    · intro other hne
      have hpath : other ≠ path := fun heq => hne (heq ▸ rfl)
      rw [tableText, FileTable.lookup_put_of_ne hpath, tableText]

/-- A bundle whose files are blank. -/
def plainBundle (qualified descriptor : String) : ServiceBundle :=
  ⟨"S", qualified, ⟨descriptor, ""⟩, ⟨"S.cs", ""⟩, ⟨"IS.cs", ""⟩⟩

/-- Names that collide when sanitized, a repeated one, and one that is an earlier fallback name. -/
def collidingBundles : List ServiceBundle :=
  [plainBundle "A-B" "x/d.svc", plainBundle "A_B" "y/d.svc", plainBundle "A-B" "z/d.svc",
    plainBundle "A_B.d" "x/e.svc"]

theorem writeAll_keeps_apart_collidingBundles :
    Stores FileTable.fileSystem (fun t => t.refusals = []) tableText ∧
      ∃ t log, (writeAll "out" collidingBundles).run FileTable.fileSystem ⟨.ok [], [], []⟩ =
          ⟨.ok (.ok ["out/A_B.bundle.yaml", "out/A_B.d.bundle.yaml", "out/A_B.d.2.bundle.yaml",
            "out/A_B.d.e.bundle.yaml"]), t, log⟩ ∧
        List.Forall₂ (fun path b => tableText t path = some b.toText)
          ["out/A_B.bundle.yaml", "out/A_B.d.bundle.yaml", "out/A_B.d.2.bundle.yaml",
            "out/A_B.d.e.bundle.yaml"] collidingBundles := by
  have hpaths : ((writeAll "out" collidingBundles).run FileTable.fileSystem
      ⟨.ok [], [], []⟩).result = .ok (.ok ["out/A_B.bundle.yaml", "out/A_B.d.bundle.yaml",
        "out/A_B.d.2.bundle.yaml", "out/A_B.d.e.bundle.yaml"]) := by
    decide +kernel
  obtain ⟨paths, t, log, hrun, -, -, hstored⟩ :=
    writeAll_keeps_apart stores_table "out" collidingBundles (s := ⟨.ok [], [], []⟩) rfl
  rw [hrun, Except.ok.injEq, Except.ok.injEq] at hpaths
  rw [hpaths] at hrun hstored
  exact ⟨stores_table, t, log, hrun, hstored⟩

end ServiceLinker.Proofs
