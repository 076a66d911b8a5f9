import ServiceLinker.Proofs.HandOff
import ServiceLinker.Proofs.RepeatedWriting
import ServiceLinker.Proofs.ScriptRequests
import ServiceLinker.Proofs.TreeListing

/-!
# Bundling a tree twice

The files of bundles all have one extension. If neither descriptors nor declarations have it, then
the bundles that a run leaves in its tree, even below the root that it has listed, are nothing to
the next run: it reads the same files, makes the same report and writes the same bundles.
-/

namespace ServiceLinker.Proofs

open ServiceBundle (writeAll)
open ServiceLinker.Tree (walkFiles readText listedPath worded)

/-- The name of the place has the extension of bundle files. -/
def EndsInYaml (place : List String) : Prop :=
  ∃ name, EndsIn name place ∧ Path.extension? name = some "yaml"

lemma endsInYaml_concat_iff {above : List String} {name : String} :
    EndsInYaml (above ++ [name]) ↔ Path.extension? name = some "yaml" := by
  constructor
  · rintro ⟨name', hends, hyaml⟩
    exact endsIn_concat_iff.mp hends ▸ hyaml
  · exact fun hyaml => ⟨name, endsIn_concat_iff.mpr rfl, hyaml⟩

/-! ### Listing a grown tree -/

section

variable {c : Config} (hdescriptor : Text.equalIgnoringCase "yaml" c.descriptorExtension = false)
  (hdeclaration : Text.equalIgnoringCase "yaml" c.declarationExtension = false)

include hdescriptor hdeclaration

lemma extension?_ne_yaml {path : String} (h : (c.role? path).isSome = true) :
    Path.extension? path ≠ some "yaml" := by
  intro hyaml
  rw [isSome_role?, Path.hasExtension, Path.hasExtension, hyaml, Option.any_some, Option.any_some,
    hdescriptor, hdeclaration] at h
  cases h

lemma not_endsInYaml {t : Tree} (ht : Plain t) {root : String} {place names : List String}
    (hne : names ≠ []) (hthere : nodeAt t (place ++ names) ≠ none)
    (hrole : (c.role? (listedPath root names)).isSome = true) : ¬EndsInYaml (place ++ names) := by
  obtain ⟨above, name, rfl⟩ := (List.eq_nil_or_concat' names).resolve_left hne
  have hslash := slashFree_of_nodeAt ht.named hthere
  rw [← List.append_assoc] at hthere ⊢
  have hname := isFileName_of_isEntryName (isEntryName_of_nodeAt ht.named hthere)
  rw [endsInYaml_concat_iff, ← extension?_listedPath root hname hslash]
  exact extension?_ne_yaml hdescriptor hdeclaration hrole

/-- Bundle files neither show in the part of a listing that is read nor change what is read. -/
lemma walkFiles_grown {t t' : Tree} (ht : Plain t) (ht' : Plain t') (hg : Grows EndsInYaml t t')
    {here : List String} {root : String} {paths : List String}
    (hwalk : walkFiles t root here = .ok paths) :
    ∃ paths', walkFiles t' root here = .ok paths' ∧
      relevantPaths c paths' = relevantPaths c paths ∧
      ∀ path ∈ relevantPaths c paths, readText t' path here = readText t path here := by
  obtain ⟨place, part, hroot, hpart, hdir, rfl⟩ := exists_dir_of_walkFiles ht.unlinked hwalk
  have hroot' := spotOf_grow hg hroot
  have hdir' := hg.dirs place hdir
  obtain ⟨entries', hpart'⟩ := nodeAt_eq_dir_iff.mp hdir'
  have hfiles : ∀ names, (c.role? (listedPath root names)).isSome = true → names ≠ [] →
      ∀ content, nodeAt t' (place ++ names) = some (.file content) ↔
        nodeAt t (place ++ names) = some (.file content) := by
    intro names hrole hne content
    have hsame : ¬EndsInYaml (place ++ names) →
        (nodeAt t' (place ++ names) = some (.file content) ↔
          nodeAt t (place ++ names) = some (.file content)) := hg.files _ content
    constructor
    · intro hfile
      have hthere := nodeAt_ne_none hfile
      exact (hsame (not_endsInYaml hdescriptor hdeclaration ht' hne hthere hrole)).mp hfile
    · intro hfile
      have hthere := nodeAt_ne_none hfile
      exact (hsame (not_endsInYaml hdescriptor hdeclaration ht hne hthere hrole)).mpr hfile
  have hbelow : ∀ names, nodeAt part names = nodeAt t (place ++ names) := by
    intro names
    rw [nodeAt_append, hpart, Option.bind_some]
  have hbelow' : ∀ names, nodeAt (.dir entries') names = nodeAt t' (place ++ names) := by
    intro names
    rw [nodeAt_append, hpart', Option.bind_some]
  have hnamed : wellNamed part = true := wellNamed_of_at? ht.named hpart
  refine ⟨_, walkFiles_of_dir ht'.unlinked hroot' hpart' hdir', ?_, ?_⟩
  · refine relevantPaths_listing hnamed (wellNamed_of_at? ht'.named hpart') c root ?_
    intro names hrole hne
    rw [hbelow, hbelow']
    exact exists_congr fun content => (hfiles names hrole hne content).symm
  · intro path hpath
    rw [relevantPaths, List.mem_eraseDups, List.mem_filter, ← isSome_role?] at hpath
    obtain ⟨hlisted, hrole⟩ := hpath
    obtain ⟨names, hnames, rfl⟩ := List.mem_map.mp hlisted
    obtain ⟨hne, content, hfile⟩ := (mem_files_iff hnamed).mp hnames
    rw [hbelow] at hfile
    exact readText_listedPath ht ht' hroot hroot' hne hfile
      ((hfiles names hrole hne content).mpr hfile)

end

/-! ### Linking and bundling a tree -/

section

variable {here : List String}

/-- What is read at the paths. -/
def readingsOf (t : Tree) (here : List String) (paths : List String) : List Reading :=
  paths.map fun path => (path, worded (readText t path here))

/-- A script that writes nothing leaves a tree as it is. -/
lemma run_of_onlyReads {α : Type} {x : Script α} (hx : Asks OnlyReads x) (t : Tree) :
    ∃ a log, x.run (Tree.fileSystem here) t = ⟨.ok a, t, log⟩ := by
  have hanswers : ∀ r, OnlyReads r → ∃ a, (Tree.fileSystem here).answer r t = (.ok a, t) ∧
      (Tree.fileSystem here).answer r t = (.ok a, t) :=
    fun r hr => ⟨_, answer_of_onlyReads hr here t, answer_of_onlyReads hr here t⟩
  obtain ⟨a, log, hrun, -⟩ := run_of_asks hanswers hx
  exact ⟨a, log, hrun⟩

lemma run_linkTree_tree {t : Tree} {root : String} (c : Config) {paths : List String}
    (hwalk : walkFiles t root here = .ok paths) :
    ∃ log, (linkTree root c).run (Tree.fileSystem here) t =
      ⟨.ok (.ok (treeReport root c (readingsOf t here (relevantPaths c paths)))), t, log⟩ := by
  have hanswer : (Tree.fileSystem here).answer (.walkFiles root) t = (.ok (.ok paths), t) := by
    change (Except.ok (worded (walkFiles t root here)), t) = _
    rw [hwalk]
    rfl
  obtain ⟨reads, hpaths, hcalls, hresult⟩ := run_linkTree (Tree.fileSystem_answers here) c hanswer
  have hreads : readingsOf t here (relevantPaths c paths) = reads := by
    rw [readingsOf, ← hpaths]
    refine map_fst_readings fun r hr => ?_
    have hcall : r.call ∈ callsOf (Tree.fileSystem here) (linkTree root c) t := by
      rw [hcalls]
      exact List.mem_cons_of_mem _ (List.mem_map_of_mem hr)
    have hanswer := answer_of_mem_callsOf (fun _ hq => ⟨_, answer_of_onlyReads hq here t⟩)
      (asks_linkTree root c) hcall
    change (Except.ok (worded (readText t r.1 here)), t) = (Except.ok r.2, t) at hanswer
    rw [Prod.mk.injEq, Except.ok.injEq] at hanswer
    exact hanswer.1.symm
  obtain ⟨outcome, log, hrun⟩ := run_of_onlyReads (asks_linkTree root c) t
  refine ⟨log, ?_⟩
  rw [hrun, Except.ok.injEq] at hresult
  rw [hreads, hrun, hresult]

/-- A run that makes a report has listed the tree and left it as it was. -/
lemma exists_walk_of_run_linkTree {t t' : Tree} {root : String} {c : Config} {report : LinkReport}
    {log : List LogEntry}
    (h : (linkTree root c).run (Tree.fileSystem here) t = ⟨.ok (.ok report), t', log⟩) :
    ∃ paths, walkFiles t root here = .ok paths ∧ t' = t ∧
      report = treeReport root c (readingsOf t here (relevantPaths c paths)) := by
  obtain ⟨paths, s, hanswer⟩ := walk_of_run_linkTree (Tree.fileSystem_answers here) h
  change (Except.ok (worded (walkFiles t root here)), t) = _ at hanswer
  cases hwalk : walkFiles t root here with
  | error e =>
    rw [hwalk] at hanswer
    cases hanswer
  | ok paths' =>
    obtain ⟨log', hrun⟩ := run_linkTree_tree c hwalk
    rw [h] at hrun
    cases hrun
    exact ⟨paths', rfl, rfl, rfl⟩

lemma mem_paths_of_resolved {t : Tree} {root : String} {c : Config} (hc : c.validate = .ok ())
    {paths : List String} {r : LinkedService}
    (hr : r ∈ (treeReport root c (readingsOf t here paths)).resolved) :
    r.descriptorPath ∈ paths ∧ (∀ path, r.implementationPath = some path → path ∈ paths) ∧
      ∀ path, r.interfacePath = some path → path ∈ paths := by
  have hmarker : Text.allBlank c.contractMarker = false :=
    ((Config.validate_eq_ok_iff c).mp hc).2.2.2
  have hread : ∀ a, WasRead (readingsOf t here paths) a → a.path ∈ paths := by
    intro a ha
    obtain ⟨path, hpath, hsame⟩ := List.mem_map.mp ha.1
    have hsamePath : path = a.path := congrArg Prod.fst hsame
    exact hsamePath ▸ hpath
  obtain ⟨hrecord, hresolved⟩ := List.mem_filter.mp hr
  obtain ⟨b, hevidence, hdescriptor, himplementation, hinterface⟩ :=
    exists_bundle_of_resolved hmarker hrecord hresolved
  refine ⟨hevidence.descriptorPath ▸ hread _ hdescriptor, ?_, ?_⟩
  · intro path hpath
    rw [← hevidence.implementationPath, Option.some.injEq] at hpath
    exact hpath ▸ hread _ himplementation
  · intro path hpath
    rw [← hevidence.interfacePath, Option.some.injEq] at hpath
    exact hpath ▸ hread _ hinterface

/-- Trees in which the listed files are read alike give the same bundles. -/
lemma run_bundleResolved_alike {t t' : Tree} (root : String) {c : Config}
    (hc : c.validate = .ok ()) {paths : List String}
    (hread : ∀ path ∈ paths, readText t' path here = readText t path here) :
    let bundling := (treeReport root c (readingsOf t here paths)).bundleResolved
    ∃ built log, bundling.run (Tree.fileSystem here) t = ⟨.ok built, t, log⟩ ∧
      bundling.run (Tree.fileSystem here) t' = ⟨.ok built, t', log⟩ := by
  have hanswers : ∀ r, (∃ path ∈ paths, r = .readText path) →
      ∃ a, (Tree.fileSystem here).answer r t = (.ok a, t) ∧
        (Tree.fileSystem here).answer r t' = (.ok a, t') := by
    rintro r ⟨path, hpath, rfl⟩
    refine ⟨worded (readText t path here), rfl, ?_⟩
    rw [← hread path hpath]
    rfl
  refine run_of_asks hanswers (asks_bundleResolved ?_)
  intro r hr
  obtain ⟨hdescriptor, himplementation, hinterface⟩ := mem_paths_of_resolved hc hr
  exact ⟨⟨_, hdescriptor, rfl⟩, fun path hpath => ⟨path, himplementation path hpath, rfl⟩,
    fun path hpath => ⟨path, hinterface path hpath, rfl⟩⟩

/-- Bundling is repeatable and leaves the sources alone, wherever the program works and also when
the bundles are written below the root that is linked: no file with one of the two extensions comes,
goes or changes, the tree links to the same report again, and the same bundles are written once more
to no effect. -/
theorem bundling_repeatable {t : Tree} (ht : Plain t) {c : Config} (hc : c.validate = .ok ())
    (hdescriptor : Text.equalIgnoringCase "yaml" c.descriptorExtension = false)
    (hdeclaration : Text.equalIgnoringCase "yaml" c.declarationExtension = false)
    {root directory : String} {report : LinkReport} {bundles : List ServiceBundle}
    {diagnostics : List Diagnostic} {paths : List String} {t₁ t₂ t' : Tree}
    {log₁ log₂ log₃ : List LogEntry}
    (hlink : (linkTree root c).run (Tree.fileSystem here) t = ⟨.ok (.ok report), t₁, log₁⟩)
    (hbundle : report.bundleResolved.run (Tree.fileSystem here) t₁ =
      ⟨.ok (bundles, diagnostics), t₂, log₂⟩)
    (hwrite : (writeAll directory bundles).run (Tree.fileSystem here) t₂ =
      ⟨.ok (.ok paths), t', log₃⟩) :
    (∀ place name content, (Path.hasExtension name c.descriptorExtension = true ∨
        Path.hasExtension name c.declarationExtension = true) →
      (t'.at? (place ++ [name]) = some (.file content) ↔
        t.at? (place ++ [name]) = some (.file content))) ∧
      (∃ log, (linkTree root c).run (Tree.fileSystem here) t' = ⟨.ok (.ok report), t', log⟩) ∧
      (∃ log, report.bundleResolved.run (Tree.fileSystem here) t' =
        ⟨.ok (bundles, diagnostics), t', log⟩) ∧
      (∃ log, (writeAll directory bundles).run (Tree.fileSystem here) t' =
        ⟨.ok (.ok paths), t', log⟩) ∧
      writtenBy here (writeAll directory bundles) t' =
        writtenBy here (writeAll directory bundles) t₂ := by
  -- linking and bundling only read, so that the first write finds the tree as it was
  obtain ⟨listed, hwalk, hkept, rfl⟩ := exists_walk_of_run_linkTree hlink
  subst hkept
  have hself : ∀ path ∈ relevantPaths c listed, readText t₁ path here = readText t₁ path here :=
    fun _ _ => rfl
  obtain ⟨built, log, hrun, -⟩ := run_bundleResolved_alike root hc hself
  rw [hbundle] at hrun
  cases hrun
  obtain ⟨ht', hgrows, hstored, hpaths, hwritten⟩ := writeBeside_ok ht hwrite
  have hg : Grows EndsInYaml t₁ t' := hgrows.mono fun place ⟨name, hname, hends⟩ =>
    ⟨name, hends, extension?_of_mem_bundleNames hname⟩
  obtain ⟨listed', hwalk', hlisted, hread⟩ :=
    walkFiles_grown hdescriptor hdeclaration ht ht' hg hwalk
  obtain ⟨log, hagain⟩ := writeBeside_again ht' hstored
  rw [← hpaths] at hagain
  refine ⟨?_, ?_, ?_, ⟨log, hagain⟩, ?_⟩
  · intro place name content hextension
    have hrole : (c.role? name).isSome = true := by
      rw [isSome_role?, Bool.or_eq_true]
      exact hextension.symm
    rw [← nodeAt_eq_file_iff, ← nodeAt_eq_file_iff]
    apply hg.files
    rw [endsInYaml_concat_iff]
    exact extension?_ne_yaml hdescriptor hdeclaration hrole
  · have hreadings : readingsOf t' here (relevantPaths c listed') =
        readingsOf t₁ here (relevantPaths c listed) := by
      rw [hlisted]
      refine List.map_congr_left ?_
      intro path hpath
      rw [hread path hpath]
    rw [← hreadings]
    exact run_linkTree_tree c hwalk'
  · obtain ⟨built, log', hrun, hrun'⟩ := run_bundleResolved_alike root hc hread
    rw [hbundle] at hrun
    cases hrun
    exact ⟨_, hrun'⟩
  · obtain ⟨-, -, -, -, hwritten'⟩ := writeBeside_ok ht' hagain
    exact hwritten'.trans hwritten.symm

end

/-- A service with its class and its interface, beside a directory to work in. -/
def oneService : Tree :=
  .dir [("src", .dir [("A.svc", .file (.text "Service=\x22A\x22")),
      ("A.cs", .file (.text "class A : IA")),
      ("IA.cs", .file (.text "interface IA [ServiceContract]"))]),
    ("work", .empty)]

def oneServiceReport : LinkReport :=
  ⟨"/src",
    [⟨"A", "A", "/src/A.svc", some "/src/A.cs", some "/src/IA.cs", some .inheritance, []⟩], []⟩

def oneServiceBundles : List ServiceBundle :=
  [⟨"A", "A", ⟨"/src/A.svc", "Service=\x22A\x22"⟩, ⟨"/src/A.cs", "class A : IA"⟩,
    ⟨"/src/IA.cs", "interface IA [ServiceContract]"⟩⟩]

/-- The file system in which the service is linked. -/
def workspace : FileSystem Tree := Tree.fileSystem ["work"]

lemma run_linkTree_oneService :
    ∃ log, (linkTree "/src" .default).run workspace oneService =
      ⟨.ok (.ok oneServiceReport), oneService, log⟩ := by
  have hwalk : walkFiles oneService "/src" ["work"] =
      .ok ["/src/A.cs", "/src/A.svc", "/src/IA.cs"] := by
    cbv
  obtain ⟨log, hrun⟩ := run_linkTree_tree .default hwalk
  have hreport : treeReport "/src" .default (readingsOf oneService ["work"]
      (relevantPaths .default ["/src/A.cs", "/src/A.svc", "/src/IA.cs"])) = oneServiceReport := by
    decide +kernel
  rw [hreport] at hrun
  exact ⟨log, hrun⟩

/-- The root is absolute, and the bundles are written below it along another path. -/
theorem bundling_repeatable_oneService :
    Plain oneService ∧ Config.default.validate = .ok () ∧
      Text.equalIgnoringCase "yaml" Config.default.descriptorExtension = false ∧
      Text.equalIgnoringCase "yaml" Config.default.declarationExtension = false ∧
      ∃ t₂ t' log₁ log₂ log₃,
        (linkTree "/src" .default).run workspace oneService =
          ⟨.ok (.ok oneServiceReport), oneService, log₁⟩ ∧
        oneServiceReport.bundleResolved.run workspace oneService =
          ⟨.ok (oneServiceBundles, []), t₂, log₂⟩ ∧
        (writeAll "../src/out" oneServiceBundles).run workspace t₂ =
          ⟨.ok (.ok ["../src/out/A.bundle.yaml"]), t', log₃⟩ ∧
        (∃ log, (linkTree "/src" .default).run workspace t' =
          ⟨.ok (.ok oneServiceReport), t', log⟩) ∧
        (∃ log, oneServiceReport.bundleResolved.run workspace t' =
          ⟨.ok (oneServiceBundles, []), t', log⟩) ∧
        (∃ log, (writeAll "../src/out" oneServiceBundles).run workspace t' =
          ⟨.ok (.ok ["../src/out/A.bundle.yaml"]), t', log⟩) ∧
        writtenBy ["work"] (writeAll "../src/out" oneServiceBundles) t' =
          writtenBy ["work"] (writeAll "../src/out" oneServiceBundles) t₂ := by
  have hplain : Plain oneService := ⟨by decide +kernel, by decide +kernel⟩
  have hvalid : Config.default.validate = .ok () := by decide +kernel
  have hdescriptor : Text.equalIgnoringCase "yaml" Config.default.descriptorExtension = false := by
    decide +kernel
  have hdeclaration :
      Text.equalIgnoringCase "yaml" Config.default.declarationExtension = false := by
    decide +kernel
  obtain ⟨log₁, hlink⟩ := run_linkTree_oneService
  have hbuilt : (oneServiceReport.bundleResolved.run workspace oneService).result =
      .ok (oneServiceBundles, []) := by
    decide +kernel
  have hpaths : ((writeAll "../src/out" oneServiceBundles).run workspace
      (oneServiceReport.bundleResolved.run workspace oneService).state).result =
        .ok (.ok ["../src/out/A.bundle.yaml"]) := by
    decide +kernel
  rcases hbundle : oneServiceReport.bundleResolved.run workspace oneService with
    ⟨built, t₂, log₂⟩
  rw [hbundle] at hbuilt hpaths
  dsimp only at hbuilt hpaths
  subst hbuilt
  rcases hwrite : (writeAll "../src/out" oneServiceBundles).run workspace t₂ with
    ⟨written, t', log₃⟩
  rw [hwrite] at hpaths
  dsimp only at hpaths
  subst hpaths
  obtain ⟨-, hreport, hbundles, hagain, hwritten⟩ :=
    bundling_repeatable hplain hvalid hdescriptor hdeclaration hlink hbundle hwrite
  exact ⟨hplain, hvalid, hdescriptor, hdeclaration, t₂, t', log₁, log₂, log₃, hlink, rfl, hwrite,
    hreport, hbundles, hagain, hwritten⟩

end ServiceLinker.Proofs
