import ServiceLinker.Bundle.Collection
import ServiceLinker.Proofs.LinkOutcomes
import ServiceLinker.Proofs.SteadyReads
import ServiceLinker.Proofs.TreeAccounting

/-!
# Every linked service is handed off

A resolved record was made of three texts that matched a pattern or hold the contract marker, so that
none of them is blank. When they are read again they make a bundle, and the bundle carries the
evidence for its record.
-/

namespace ServiceLinker.Proofs

/-! ### Texts that are not blank -/

lemma not_allBlank_of_word {text : String} {p word r : List Char}
    (htext : text.toList = p ++ word ++ r) (hword : word.all Text.isBlank = false) :
    Text.allBlank text = false := by
  rw [Text.allBlank, htext, List.all_append, List.all_append, hword, Bool.and_false,
    Bool.false_and]

lemma not_allBlank_of_contains {text needle : String} (h : Text.contains text needle = true)
    (hneedle : Text.allBlank needle = false) : Text.allBlank text = false := by
  obtain ⟨p, r, htext⟩ := Text.occursIn_iff.mp h
  exact not_allBlank_of_word htext hneedle

lemma not_allBlank_of_declares {kind : Pattern.Kind} {name text : String}
    (h : Pattern.declares kind name text = true) : Text.allBlank text = false := by
  obtain ⟨p, w, c, r, htext, -⟩ := declares_iff.mp h
  have hkeyword : kind.keyword.toList.all Text.isBlank = false := by
    cases kind <;> decide
  have hsplit : text.toList = p ++ kind.keyword.toList ++ (w ++ name.toList ++ [c] ++ r) := by
    simp [htext]
  exact not_allBlank_of_word hsplit hkeyword

lemma not_allBlank_of_parse {file : SourceFile} {d : ServiceDescriptor}
    (h : ServiceDescriptor.parse file = .ok d) : Text.allBlank file.content = false := by
  obtain ⟨-, ⟨p, cs, htext, ⟨r, hcs, -⟩, -⟩, -⟩ := parse_eq_ok_iff.mp h
  have hopening : "Service=\x22".toList.all Text.isBlank = false := by decide
  have hsplit : file.content.toList =
      p ++ "Service=\x22".toList ++ (d.declaredTypeName.toList ++ ['\x22'] ++ r) := by
    simp [htext, hcs]
  exact not_allBlank_of_word hsplit hopening

/-! ### The files of a resolved record -/

/-- The bundle belongs to the record and carries the evidence for its links. -/
structure Evidence (c : Config) (r : LinkedService) (b : ServiceBundle) : Prop where
  serviceName : b.serviceName = r.serviceName
  qualifiedName : b.qualifiedName = r.qualifiedName
  descriptorPath : b.descriptor.path = r.descriptorPath
  implementationPath : some b.implementation.path = r.implementationPath
  interfacePath : some b.interface.path = r.interfacePath
  descriptor_names : ServiceDescriptor.parse (.ofContent b.descriptor.path b.descriptor.content) =
    .ok ⟨b.descriptor.path, b.qualifiedName⟩
  implementation_declares :
    (Pattern.header? .classKind b.serviceName).value.map (· b.implementation.content) = some true
  interface_holds : Text.contains b.interface.content c.contractMarker = true

/-- The file was read, and its text is not blank. -/
def WasRead (reads : List Reading) (a : Artifact) : Prop :=
  (a.path, .ok a.content) ∈ reads ∧ Text.allBlank a.content = false

section

variable {root : String} {c : Config} {reads : List Reading}

lemma mem_reads_of_declaration {file : SourceFile} (h : file ∈ (indexOf c reads).declarations) :
    (file.path, .ok file.content) ∈ reads := by
  obtain ⟨⟨path, answer⟩, hread, hfile⟩ := List.mem_filterMap.mp h
  cases answer with
  | error reason => cases hfile
  | ok text =>
    rw [Reading.fileIn?] at hfile
    split_ifs at hfile
    cases hfile
    exact hread

lemma exists_reading_of_descriptor {d : ServiceDescriptor}
    (h : d ∈ reads.filterMap (Reading.descriptor? c)) :
    ∃ text, (d.path, .ok text) ∈ reads ∧
      ServiceDescriptor.parse (.ofContent d.path text) = .ok d := by
  obtain ⟨⟨path, answer⟩, hread, hdescriptor⟩ := List.mem_filterMap.mp h
  obtain ⟨file, hfile, hparse⟩ := Option.bind_eq_some_iff.mp hdescriptor
  cases answer with
  | error reason => cases hfile
  | ok text =>
    rw [Reading.fileIn?] at hfile
    split_ifs at hfile
    cases hfile
    cases hd : ServiceDescriptor.parse (.ofContent path text) with
    | error e =>
      rw [hd] at hparse
      cases hparse
    | ok d' =>
      rw [hd] at hparse
      cases hparse
      have hpath : d.path = path := path_of_parse_ok hd
      rw [hpath]
      exact ⟨text, hread, hd⟩

/-- A resolved record has a bundle of texts that were read. -/
lemma exists_bundle_of_resolved (hmarker : Text.allBlank c.contractMarker = false)
    {r : LinkedService} (hr : r ∈ (treeReport root c reads).records)
    (hresolved : r.isResolved = true) :
    ∃ b, Evidence c r b ∧ WasRead reads b.descriptor ∧ WasRead reads b.implementation ∧
      WasRead reads b.interface := by
  obtain ⟨d, hd, rfl⟩ := List.mem_map.mp hr
  rw [linkDescriptor_value] at hresolved ⊢
  obtain ⟨text, hread, hparse⟩ := exists_reading_of_descriptor hd
  rw [LinkedService.isResolved, Bool.and_eq_true] at hresolved
  obtain ⟨class', hclass⟩ := exists_reported hresolved.1
  obtain ⟨contract, hcontract⟩ := exists_reported hresolved.2
  obtain ⟨hsearchable, himplements⟩ := mem_of_searched (mem_of_reported hclass)
  obtain ⟨hclassMem, hdeclares⟩ := List.mem_filter.mp himplements
  obtain ⟨hcontractMem, hholds⟩ := mem_of_contractSearch (mem_of_reported hcontract)
  rw [Bool.and_eq_true] at hdeclares
  refine ⟨⟨d.simpleName, d.declaredTypeName, ⟨d.path, text⟩, ⟨class'.path, class'.content⟩,
    ⟨contract.path, contract.content⟩⟩, ⟨rfl, rfl, rfl, ?_, ?_, hparse, ?_, hholds⟩,
    ⟨hread, not_allBlank_of_parse hparse⟩,
    ⟨mem_reads_of_declaration hclassMem, not_allBlank_of_declares hdeclares.2⟩,
    ⟨mem_reads_of_declaration hcontractMem, not_allBlank_of_contains hholds hmarker⟩⟩
  · exact (congrArg reportedPath? hclass).symm
  · exact (congrArg reportedPath? hcontract).symm
  · rw [Pattern.value_header?, if_pos hsearchable, ← hdeclares.2]
    rfl

end

/-! ### Reading the files again -/

section

variable {σ : Type} {fs : FileSystem σ} {contents : String → Except String String}

lemma yields_load (hfs : fs.Answers) {a : Artifact} (hcontent : contents a.path = .ok a.content)
    (hblank : Text.allBlank a.content = false) :
    Yields fs contents (Artifact.load a.path) (.ok a) := by
  unfold Artifact.load
  refine yields_bind hfs (yields_readText hfs a.path) ?_
  rw [hcontent]
  dsimp only
  rw [if_neg (Bool.not_eq_true _ ▸ hblank)]
  exact yields_pure _

lemma yields_bundle (hfs : fs.Answers) {c : Config} {r : LinkedService} {b : ServiceBundle}
    (h : Evidence c r b)
    (hdescriptor : Yields fs contents (Artifact.load b.descriptor.path) (.ok b.descriptor))
    (himplementation :
      Yields fs contents (Artifact.load b.implementation.path) (.ok b.implementation))
    (hinterface : Yields fs contents (Artifact.load b.interface.path) (.ok b.interface)) :
    Yields fs contents r.bundleOrDiagnostic (.ok b) := by
  have hbundle : Yields fs contents r.bundle (.ok b) := by
    unfold LinkedService.bundle
    rw [← h.implementationPath, ← h.interfacePath]
    dsimp only
    unfold LinkedService.loadBundle
    rw [← h.descriptorPath, ← h.serviceName, ← h.qualifiedName]
    refine yields_bind hfs hdescriptor ?_
    refine yields_bind hfs himplementation ?_
    exact yields_bind hfs hinterface (yields_pure _)
  exact yields_bind hfs hbundle (yields_pure _)

end

/-! ### The hand-off -/

lemma filterMap_map_eq_self {α β : Type} {f : α → β} {g : β → Option α}
    (h : ∀ a, g (f a) = some a) (as : List α) : (as.map f).filterMap g = as := by
  rw [List.filterMap_map, show g ∘ f = some from funext h]
  exact List.filterMap_some

lemma filterMap_map_eq_nil {α β γ : Type} {f : α → β} {g : β → Option γ}
    (h : ∀ a, g (f a) = none) (as : List α) : (as.map f).filterMap g = [] := by
  rw [List.filterMap_map]
  exact List.filterMap_eq_nil_iff.mpr fun a _ => h a

lemma yields_bundleResolved {σ : Type} {fs : FileSystem σ}
    {contents : String → Except String String} (hfs : fs.Answers)
    {P : LinkedService → ServiceBundle → Prop} {report : LinkReport}
    (h : ∀ r ∈ report.resolved, ∃ b, P r b ∧ Yields fs contents r.bundleOrDiagnostic (.ok b)) :
    ∃ bundles, List.Forall₂ P report.resolved bundles ∧
      Yields fs contents report.bundleResolved (bundles, []) := by
  obtain ⟨bundles, hbundles, hyields⟩ := yields_traverse hfs h
  refine ⟨bundles, hbundles, ?_⟩
  unfold LinkReport.bundleResolved
  refine yields_bind hfs hyields ?_
  rw [filterMap_map_eq_self, filterMap_map_eq_nil]
  · exact yields_pure _
  · exact fun _ => rfl
  · exact fun _ => rfl

/-- Every resolved record of a linked tree is handed off with the evidence for its links, provided
that the files are read alike during the run. -/
theorem bundleResolved_of_linkTree {σ : Type} {fs : FileSystem σ} (hfs : fs.Answers)
    {root : String} {c : Config} (hc : c.validate = .ok ()) {s s' : σ} {report : LinkReport}
    {log : List LogEntry}
    (hlink : (linkTree root c).run fs s = ⟨.ok (.ok report), s', log⟩)
    (contents : String → Except String String)
    (hreads : ReadsAs contents
      (callsOf fs (linkTree root c) s ++ callsOf fs report.bundleResolved s')) :
    ∃ bundles t log', report.bundleResolved.run fs s' = ⟨.ok (bundles, []), t, log'⟩ ∧
      List.Forall₂ (Evidence c) report.resolved bundles := by
  obtain ⟨hlinkReads, hbundleReads⟩ := readsAs_append.mp hreads
  have hmarker : Text.allBlank c.contractMarker = false :=
    ((Config.validate_eq_ok_iff c).mp hc).2.2.2
  obtain ⟨paths, s₁, hwalk⟩ := walk_of_run_linkTree hfs hlink
  obtain ⟨reads, -, hcalls, hresult⟩ := run_linkTree hfs c hwalk
  rw [hlink, Except.ok.injEq, Except.ok.injEq] at hresult
  subst hresult
  have hload : ∀ a, WasRead reads a → Yields fs contents (Artifact.load a.path) (.ok a) := by
    intro a ha
    have hcall : Call.mk (.readText a.path) (.ok a.content) ∈ callsOf fs (linkTree root c) s := by
      rw [hcalls]
      exact List.mem_cons_of_mem _ (List.mem_map.mpr ⟨_, ha.1, rfl⟩)
    exact yields_load hfs (hlinkReads _ _ hcall).symm ha.2
  have hbundles : ∀ r ∈ (treeReport root c reads).resolved, ∃ b, Evidence c r b ∧
      Yields fs contents r.bundleOrDiagnostic (.ok b) := by
    intro r hr
    obtain ⟨hrecord, hresolved⟩ := List.mem_filter.mp hr
    obtain ⟨b, hevidence, hdescriptor, himplementation, hinterface⟩ :=
      exists_bundle_of_resolved hmarker hrecord hresolved
    exact ⟨b, hevidence, yields_bundle hfs hevidence (hload _ hdescriptor)
      (hload _ himplementation) (hload _ hinterface)⟩
  obtain ⟨bundles, hevidence, hyields⟩ := yields_bundleResolved hfs hbundles
  obtain ⟨t, log', hrun⟩ := hyields s' hbundleReads
  exact ⟨bundles, t, log', hrun, hevidence⟩

/-! ### A table that is only read -/

/-- The file system of a table that cannot be written. -/
def frozen (t : FileTable) : FileSystem Unit where
  answer request _ := (.ok (FileTable.answer request t).1, ())

lemma frozen_answers (t : FileTable) : (frozen t).Answers := fun _ _ => ⟨_, rfl⟩

lemma readsAs_frozen {α : Type} (t : FileTable) (x : Script α) :
    ReadsAs (fun path => (t.files.lookup path).getD (.error FileTable.missing))
      (callsOf (frozen t) x ()) :=
  readsAs_callsOf (fun _ _ => rfl) x ()

/-- A service that is linked by its base, and one that is linked by the contract marker. -/
def twoServices : FileTable :=
  ⟨.ok ["A.svc", "B.svc", "A.cs", "B.cs", "IA.cs", "IB.cs"],
    [("A.svc", .ok "Service=\x22A\x22"), ("B.svc", .ok "Service=\x22x.B\x22"),
      ("A.cs", .ok "class A : IA"), ("B.cs", .ok "class B "),
      ("IA.cs", .ok "interface IA [ServiceContract]"), ("IB.cs", .ok "[ServiceContract]")], []⟩

def twoServicesReport : LinkReport :=
  ⟨"r", [⟨"A", "A", "A.svc", some "A.cs", some "IA.cs", some .inheritance, []⟩,
    ⟨"B", "x.B", "B.svc", some "B.cs", some "IB.cs", some .contractFallback, []⟩], []⟩

theorem bundleResolved_of_linkTree_twoServices :
    (frozen twoServices).Answers ∧ Config.default.validate = .ok () ∧
      ∃ log bundles log', (linkTree "r" .default).run (frozen twoServices) () =
          ⟨.ok (.ok twoServicesReport), (), log⟩ ∧
        twoServicesReport.bundleResolved.run (frozen twoServices) () =
          ⟨.ok (bundles, []), (), log'⟩ ∧
        bundles.length = 2 ∧
        List.Forall₂ (Evidence .default) twoServicesReport.resolved bundles := by
  have hvalid : Config.default.validate = .ok () := by decide +kernel
  have hresult : ((linkTree "r" .default).run (frozen twoServices) ()).result =
      .ok (.ok twoServicesReport) := by
    decide +kernel
  rcases hlink : (linkTree "r" .default).run (frozen twoServices) () with ⟨result, s, log⟩
  rw [hlink] at hresult
  dsimp only at hresult
  subst hresult
  have hreads := readsAs_append.mpr ⟨readsAs_frozen twoServices (linkTree "r" .default),
    readsAs_frozen twoServices twoServicesReport.bundleResolved⟩
  obtain ⟨bundles, t, log', hrun, hevidence⟩ :=
    bundleResolved_of_linkTree (frozen_answers twoServices) hvalid hlink _ hreads
  exact ⟨frozen_answers twoServices, hvalid, log, bundles, log', rfl, hrun,
    hevidence.length_eq.symm.trans rfl, hevidence⟩

end ServiceLinker.Proofs
