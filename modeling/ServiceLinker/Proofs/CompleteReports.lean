import ServiceLinker.Proofs.FileRoles
import ServiceLinker.Proofs.TreeAccounting

/-!
# What a complete report misses

A report is complete when no descriptor was refused and every record is resolved. A descriptor that
could not be read is neither refused nor recorded, so that a complete report may lack it; this file
shows that it lacks no other.
-/

namespace ServiceLinker.Proofs

/-- The report says that the path could not be read. -/
def reportsUnreadable (report : LinkReport) (p : String) : Bool :=
  report.diagnostics.any fun d => decide (d.kind = .fileUnreadable) && decide (d.path = p)

lemma isDescriptorPath_of_valid {c : Config} (hc : c.Valid) {p : String}
    (hp : Path.hasExtension p c.descriptorExtension = true) : isDescriptorPath c p = true := by
  have hdecl : Path.hasExtension p c.declarationExtension = false :=
    Bool.eq_false_iff.mpr fun h => not_hasExtension_both hc p ⟨h, hp⟩
  rw [isDescriptorPath, hp, hdecl]
  rfl

lemma mem_relevantPaths {c : Config} {paths : List String} {p : String} (hp : p ∈ paths)
    (hext : Path.hasExtension p c.descriptorExtension = true) : p ∈ relevantPaths c paths := by
  rw [relevantPaths, List.mem_eraseDups, List.mem_filter]
  exact ⟨hp, by rw [hext, Bool.or_true]⟩

section

variable {root : String} {c : Config} {reads : List Reading}

lemma reportsUnreadable_treeReport (p : String) :
    reportsUnreadable (treeReport root c reads) p = true ↔
      ∃ reason, (p, Except.error reason) ∈ reads := by
  rw [reportsUnreadable, List.any_eq_true, diagnostics_treeReport]
  constructor
  · rintro ⟨d, hd, hkind⟩
    rw [Bool.and_eq_true, decide_eq_true_eq, decide_eq_true_eq] at hkind
    rcases List.mem_append.mp hd with hd | hd
    · obtain ⟨⟨q, reason | text⟩, hr, hread⟩ := List.mem_filterMap.mp hd
      · rw [Reading.unreadable?, Option.some.injEq] at hread
        rw [← hread] at hkind
        have hpath : q = p := hkind.2
        rw [← hpath]
        exact ⟨reason, hr⟩
      · cases hread
    · obtain ⟨r, -, hr⟩ := List.mem_map.mp hd
      rw [← hr] at hkind
      cases hkind.1
  · rintro ⟨reason, hr⟩
    refine ⟨.ofError p (.fileUnreadable p reason), ?_, ?_⟩
    · exact List.mem_append_left _ (List.mem_filterMap.mpr ⟨_, hr, rfl⟩)
    · rw [Bool.and_eq_true, decide_eq_true_eq, decide_eq_true_eq]
      exact ⟨rfl, rfl⟩

lemma lacksService_of_complete (h : (treeReport root c reads).isComplete = true) {r : Reading}
    (hr : r ∈ reads) : (isDescriptorPath c r.1 && r.lacksService) = false := by
  rw [LinkReport.isComplete, Bool.and_eq_true, beq_iff_eq, LinkReport.skippedCount,
    List.countP_eq_zero, diagnostics_treeReport] at h
  by_contra hne
  rw [Bool.not_eq_false] at hne
  have hmem : Diagnostic.ofError r.1 (.descriptorAttributeMissing r.1) ∈
      (reads.filter fun r => isDescriptorPath c r.1 && r.lacksService).map
        fun r => Diagnostic.ofError r.1 (.descriptorAttributeMissing r.1) :=
    List.mem_map.mpr ⟨r, List.mem_filter.mpr ⟨hr, hne⟩, rfl⟩
  exact h.1 _ (List.mem_append_right _ hmem) (decide_eq_true rfl)

/-- A complete report has a record of a descriptor exactly when the descriptor was read. -/
lemma mem_paths_of_complete (h : (treeReport root c reads).isComplete = true)
    (hnodup : (reads.map Prod.fst).Nodup) {p : String} (hp : p ∈ reads.map Prod.fst)
    (hdescriptor : isDescriptorPath c p = true) :
    p ∈ (treeReport root c reads).records.map (·.descriptorPath) ↔
      ¬reportsUnreadable (treeReport root c reads) p = true := by
  obtain ⟨⟨q, a⟩, hr, hq⟩ := List.mem_map.mp hp
  dsimp only at hq
  subst hq
  have hunique : ∀ b, (q, b) ∈ reads → b = a := by
    intro b hb
    exact (Prod.mk.inj (List.inj_on_of_nodup_map hnodup hb hr rfl)).2
  rw [reportsUnreadable_treeReport, paths_treeReport]
  -- the one reading of the path decides both sides
  cases a with
  | error reason =>
    refine iff_of_false ?_ fun hread => hread ⟨reason, hr⟩
    intro hmem
    obtain ⟨⟨q', b⟩, hb, hq'⟩ := List.mem_map.mp hmem
    dsimp only at hq'
    subst hq'
    obtain ⟨hb, hnames⟩ := List.mem_filter.mp hb
    rw [hunique b hb, Reading.namesService, Bool.and_false] at hnames
    cases hnames
  | ok text =>
    have hlacks := lacksService_of_complete h hr
    rw [hdescriptor, Bool.true_and, Reading.lacksService, Option.isNone_eq_false_iff] at hlacks
    refine iff_of_true ?_ ?_
    · refine List.mem_map.mpr ⟨(q, .ok text), List.mem_filter.mpr ⟨hr, ?_⟩, rfl⟩
      rw [hdescriptor, Bool.true_and]
      exact hlacks
    · rintro ⟨reason, hreason⟩
      cases hunique (.error reason) hreason

lemma nodup_paths_treeReport (hnodup : (reads.map Prod.fst).Nodup) :
    ((treeReport root c reads).records.map (·.descriptorPath)).Nodup := by
  rw [paths_treeReport]
  exact List.Nodup.sublist (List.Sublist.map _ List.filter_sublist) hnodup

end

lemma countP_resolved {report : LinkReport} (h : report.isComplete = true)
    (hnodup : (report.records.map (·.descriptorPath)).Nodup) (p : String) :
    report.records.countP (fun r => decide (r.descriptorPath = p) && r.isResolved) =
      if p ∈ report.records.map (·.descriptorPath) then 1 else 0 := by
  rw [LinkReport.isComplete, Bool.and_eq_true, List.all_eq_true] at h
  have hcount : report.records.countP (fun r => decide (r.descriptorPath = p) && r.isResolved) =
      (report.records.map (·.descriptorPath)).count p := by
    rw [List.count, List.countP_map]
    apply List.countP_congr
    intro r hr
    rw [h.2 r hr, Bool.and_true, Function.comp_apply, decide_eq_true_eq, beq_iff_eq]
  rw [hcount]
  split_ifs with hmem
  · exact List.count_eq_one_of_mem hnodup hmem
  · exact List.count_eq_zero_of_not_mem hmem

/-- The descriptors of a listed tree in a complete report: one that was read has exactly one
resolved record, and one that could not be read has none. -/
theorem resolved_records_of_complete {σ : Type} {fs : FileSystem σ} (hfs : fs.Answers)
    {root : String} {c : Config} (hc : c.Valid) {s s' : σ} {paths : List String}
    (hwalk : fs.answer (.walkFiles root) s = (.ok (.ok paths), s')) {report : LinkReport}
    (hrun : ((linkTree root c).run fs s).result = .ok (.ok report))
    (hcomplete : report.isComplete = true) {p : String} (hp : p ∈ paths)
    (hext : Path.hasExtension p c.descriptorExtension = true) :
    report.records.countP (fun r => decide (r.descriptorPath = p) && r.isResolved) =
      if reportsUnreadable report p then 0 else 1 := by
  obtain ⟨reads, hpaths, -, hresult⟩ := run_linkTree hfs c hwalk
  rw [hresult, Except.ok.injEq, Except.ok.injEq] at hrun
  subst hrun
  have hnodup : (reads.map Prod.fst).Nodup := by
    rw [hpaths]
    exact nodup_relevantPaths c paths
  have hread : p ∈ reads.map Prod.fst := by
    rw [hpaths]
    exact mem_relevantPaths hp hext
  have hmem := mem_paths_of_complete hcomplete hnodup hread (isDescriptorPath_of_valid hc hext)
  rw [countP_resolved hcomplete (nodup_paths_treeReport hnodup)]
  by_cases hunreadable : reportsUnreadable (treeReport root c reads) p = true
  · rw [if_pos hunreadable, if_neg fun h => hmem.mp h hunreadable]
  · rw [if_neg hunreadable, if_pos (hmem.mpr hunreadable)]

/-- A descriptor that is linked and one that is missing. -/
def halfReadTree : FileTable :=
  ⟨.ok ["A.svc", "B.svc", "A.cs", "IA.cs"],
    [("A.svc", .ok "Service=\x22A\x22"), ("A.cs", .ok "class A : IA"),
      ("IA.cs", .ok "interface IA [ServiceContract]")], []⟩

def halfReadReport : LinkReport :=
  ⟨"r", [⟨"A", "A", "A.svc", some "A.cs", some "IA.cs", some .inheritance, []⟩],
    [⟨.fileUnreadable, "B.svc", "cannot read B.svc: no such file"⟩]⟩

lemma run_halfReadTree :
    ((linkTree "r" .default).run FileTable.fileSystem halfReadTree).result =
      .ok (.ok halfReadReport) := by
  decide +kernel

lemma valid_default : Config.default.Valid := by
  rw [← Config.validate_eq_ok_iff]
  decide +kernel

theorem resolved_records_of_complete_halfRead :
    FileTable.fileSystem.Answers ∧ Config.default.Valid ∧ halfReadReport.isComplete = true ∧
      ((linkTree "r" .default).run FileTable.fileSystem halfReadTree).result =
        .ok (.ok halfReadReport) ∧
      halfReadReport.records.countP (fun r => decide (r.descriptorPath = "A.svc") && r.isResolved) =
        1 ∧
      halfReadReport.records.countP (fun r => decide (r.descriptorPath = "B.svc") && r.isResolved) =
        0 := by
  have hcomplete : halfReadReport.isComplete = true := by decide
  have hwalk : FileTable.fileSystem.answer (.walkFiles "r") halfReadTree =
      (.ok (.ok ["A.svc", "B.svc", "A.cs", "IA.cs"]), halfReadTree) := rfl
  refine ⟨FileTable.fileSystem_answers, valid_default, hcomplete, run_halfReadTree, ?_, ?_⟩
  · have hmem : "A.svc" ∈ ["A.svc", "B.svc", "A.cs", "IA.cs"] := by decide
    exact resolved_records_of_complete FileTable.fileSystem_answers valid_default hwalk
      run_halfReadTree hcomplete hmem (by decide +kernel)
  · have hmem : "B.svc" ∈ ["A.svc", "B.svc", "A.cs", "IA.cs"] := by decide
    exact resolved_records_of_complete FileTable.fileSystem_answers valid_default hwalk
      run_halfReadTree hcomplete hmem (by decide +kernel)

/-- A complete report need not have a resolved record of every listed descriptor. -/
theorem complete_report_lacks_descriptor :
    ¬∀ (σ : Type) (fs : FileSystem σ), fs.Answers → ∀ (root : String) (c : Config), c.Valid →
      ∀ (s s' : σ) (paths : List String) (report : LinkReport) (p : String),
        fs.answer (.walkFiles root) s = (.ok (.ok paths), s') →
        ((linkTree root c).run fs s).result = .ok (.ok report) → report.isComplete = true →
        p ∈ paths → Path.hasExtension p c.descriptorExtension = true →
        report.records.countP (fun r => decide (r.descriptorPath = p) && r.isResolved) = 1 := by
  intro h
  have hone := h FileTable FileTable.fileSystem FileTable.fileSystem_answers "r" .default
    valid_default halfReadTree halfReadTree _ halfReadReport "B.svc" rfl run_halfReadTree
    (by decide) (by decide) (by decide +kernel)
  exact absurd hone (by decide)

end ServiceLinker.Proofs
