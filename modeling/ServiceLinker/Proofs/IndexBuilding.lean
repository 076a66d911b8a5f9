import ServiceLinker.Proofs.DescriptorIndependence
import ServiceLinker.Proofs.HandOff
import ServiceLinker.Proofs.LaterDeclarations

/-!
# Two ways to an index

An index built from a tree passes over a repeated path before the file is read, and does not care
for the role in which the path came first. An index of given files drops repeated paths afterwards,
in each role by itself. Where a path is always read alike the two come to the same index.
-/

namespace ServiceLinker.Proofs

open SourceIndex (candidates dedup)

/-! ### Dropping repeated paths before and after reading -/

/-- The two ways may remember different paths, as long as they agree on those that give a file. -/
lemma filterMap_candidates {c : Config} {f : String → Option SourceFile}
    (hpath : ∀ p file, f p = some file → file.path = p)
    (hrole : ∀ p, (f p).isSome = true → (c.role? p).isSome = true) {seen seen' : List String}
    (h : ∀ p, (f p).isSome = true → (p ∈ seen ↔ p ∈ seen')) (paths : List String) :
    ((candidates c seen paths).map Prod.snd).filterMap f = dedup seen' (paths.filterMap f) := by
  induction paths generalizing seen seen' with
  | nil => rfl
  | cons p paths ih =>
    unfold candidates
    cases hfile : f p with
    | none =>
      rw [List.filterMap_cons_none hfile]
      split
      · split_ifs
        · exact ih h
        · -- a path that gives no file is remembered without effect
          rw [List.map_cons, List.filterMap_cons_none hfile]
          apply ih
          intro q hq
          have hne : q ≠ p := by
            rintro rfl
            rw [hfile] at hq
            cases hq
          rw [List.mem_cons, or_iff_right hne]
          exact h q hq
      · exact ih h
    | some file =>
      have hsome : (f p).isSome = true := by rw [hfile, Option.isSome_some]
      obtain ⟨role, hr⟩ := Option.isSome_iff_exists.mp (hrole p hsome)
      rw [List.filterMap_cons_some hfile, dedup, hr, hpath p file hfile]
      dsimp only
      by_cases hseen : p ∈ seen
      · rw [if_pos hseen, if_pos ((h p hsome).mp hseen)]
        exact ih h
      · rw [if_neg hseen, if_neg (mt (h p hsome).mpr hseen), List.map_cons,
          List.filterMap_cons_some hfile]
        refine congrArg (file :: ·) (ih fun q hq => ?_)
        rw [List.mem_cons, List.mem_cons, h q hq]

/-! ### The files of a listing -/

/-- The files of the listed paths that can be read, as often and in the order in which they are
listed. -/
def readableFiles (contents : String → Except String String) (paths : List String) :
    List SourceFile :=
  paths.filterMap fun p => (contents p).toOption.map (SourceFile.ofContent p)

lemma role?_eq_declaration_iff (c : Config) (p : String) :
    c.role? p = some .declaration ↔ Path.hasExtension p c.declarationExtension = true := by
  unfold Config.role?
  cases Path.hasExtension p c.declarationExtension <;>
    cases Path.hasExtension p c.descriptorExtension <;> decide

lemma filterMap_fileIn? (c : Config) (role : Role) (contents : String → Except String String)
    (paths : List String) :
    paths.filterMap (fun p => Reading.fileIn? c role (p, contents p)) =
      (readableFiles contents paths).filter fun file => c.role? file.path = some role := by
  rw [readableFiles, List.filter_filterMap]
  congr 1
  funext p
  cases hcontent : contents p with
  | error reason => rfl
  | ok text =>
    by_cases hrole : c.role? p = some role <;>
      simp [Reading.fileIn?, Except.toOption, SourceFile.ofContent, Option.filter, hrole]

/-- What a role keeps of the readings are the first readable files of the listing in that role. -/
lemma filterMap_readings (c : Config) (role : Role) (contents : String → Except String String)
    (paths : List String) :
    ((relevantPaths c paths).map fun p => (p, contents p)).filterMap (Reading.fileIn? c role) =
      dedup [] ((readableFiles contents paths).filter fun file => c.role? file.path = some role) := by
  rw [List.filterMap_map, ← map_snd_candidates_nil, ← filterMap_fileIn?]
  apply filterMap_candidates
  · intro p file hfile
    exact path_of_fileIn? hfile
  · intro p hsome
    obtain ⟨file, hfile⟩ := Option.isSome_iff_exists.mp hsome
    rw [Function.comp_apply] at hfile
    cases hcontent : contents p with
    | error reason =>
      rw [hcontent] at hfile
      cases hfile
    | ok text =>
      rw [hcontent, Reading.fileIn?] at hfile
      split_ifs at hfile with hrole
      rw [hrole, Option.isSome_some]
  · exact fun _ _ => Iff.rfl

/-! ### Paths of an index -/

/-- No path stands for two declarations or for two descriptors, and a declaration is looked up by
its path. -/
structure DistinctPaths (index : SourceIndex) : Prop where
  declarations : (index.declarations.map (·.path)).Nodup
  descriptors : (index.descriptors.map (·.path)).Nodup
  lookup : ∀ path file, index.declaration? path = some file ↔
    file ∈ index.declarations ∧ file.path = path

lemma distinctPaths_ofFiles (declarations descriptors : List SourceFile) :
    DistinctPaths (.ofFiles declarations descriptors) := by
  have hnodup := (nodup_dedup [] declarations).1
  refine ⟨hnodup, (nodup_dedup [] descriptors).1, ?_⟩
  intro path file
  unfold SourceIndex.declaration?
  constructor
  · intro h
    have hpath : file.path = path := by simpa using List.find?_some h
    exact ⟨List.mem_of_find?_eq_some h, hpath⟩
  · rintro ⟨hfile, rfl⟩
    exact find?_path hnodup hfile

/-- Where paths are read alike, the index that is built from a tree is the index of its readable
files, repeated ones included, by their roles. No path of it has both roles. In an index made
either way no path stands twice in one role, and a declaration is looked up by its path. -/
theorem build_eq_ofFiles {σ : Type} {fs : FileSystem σ} (hfs : fs.Answers) {root : String}
    (c : Config) {paths : List String} {s s' : σ}
    (hwalk : fs.answer (.walkFiles root) s = (.ok (.ok paths), s'))
    {contents : String → Except String String}
    (hreads : ReadsAs contents (callsOf fs (SourceIndex.build root c) s)) :
    let files := readableFiles contents paths
    let index := SourceIndex.ofFiles
      (files.filter fun file => Path.hasExtension file.path c.declarationExtension)
      (files.filter fun file => isDescriptorPath c file.path)
    (∃ diagnostics t log, (SourceIndex.build root c).run fs s =
        ⟨.ok (.ok (index, diagnostics)), t, log⟩) ∧
      (∀ declaration ∈ index.declarations, ∀ descriptor ∈ index.descriptors,
        declaration.path ≠ descriptor.path) ∧
      DistinctPaths index ∧
      ∀ declarations descriptors, DistinctPaths (.ofFiles declarations descriptors) := by
  intro files index
  obtain ⟨reads, t, hpaths, hcalls, log, hrun⟩ := run_build hfs c hwalk
  have hanswers : (relevantPaths c paths).map (fun p => (p, contents p)) = reads := by
    rw [← hpaths]
    refine map_fst_readings fun r hr => hreads r.1 r.2 ?_
    rw [hcalls]
    exact List.mem_cons_of_mem _ (List.mem_map_of_mem (f := Reading.call) hr)
  have hindex : indexOf c reads = index := by
    rw [indexOf, ← hanswers, filterMap_readings, filterMap_readings]
    simp only [role?_eq_declaration_iff, role?_eq_descriptor_iff, Bool.decide_eq_true]
    rfl
  rw [hindex] at hrun
  refine ⟨⟨_, t, log, hrun⟩, ?_, distinctPaths_ofFiles _ _, distinctPaths_ofFiles⟩
  intro declaration hdeclaration descriptor hdescriptor hpath
  have hfirst := (List.mem_filter.mp (dedup_subset [] _ hdeclaration)).2
  have hsecond := (List.mem_filter.mp (dedup_subset [] _ hdescriptor)).2
  rw [← hpath, isDescriptorPath, hfirst, Bool.not_true, Bool.and_false] at hsecond
  cases hsecond

/-- A listing with a repeated declaration, a repeated descriptor and a declaration that cannot be
read. -/
def repeatedTree : FileTable :=
  ⟨.ok ["b.cs", "a.svc", "x", "b.cs", "c.cs", "a.svc", "c.cs"],
    [("a.svc", .ok "S"), ("b.cs", .ok "B"), ("c.cs", .error "denied")], []⟩

theorem build_eq_ofFiles_repeatedTree :
    (frozen repeatedTree).Answers ∧
      (frozen repeatedTree).answer (.walkFiles "r") () = (.ok repeatedTree.listing, ()) ∧
      ReadsAs (fun path => (repeatedTree.files.lookup path).getD (.error FileTable.missing))
        (callsOf (frozen repeatedTree) (SourceIndex.build "r" .default) ()) ∧
      let index := SourceIndex.ofFiles [.ofContent "b.cs" "B", .ofContent "b.cs" "B"]
        [.ofContent "a.svc" "S", .ofContent "a.svc" "S"]
      (∃ diagnostics t log, (SourceIndex.build "r" .default).run (frozen repeatedTree) () =
          ⟨.ok (.ok (index, diagnostics)), t, log⟩) ∧
        (∀ declaration ∈ index.declarations, ∀ descriptor ∈ index.descriptors,
          declaration.path ≠ descriptor.path) ∧
        DistinctPaths index := by
  have hreads := readsAs_frozen repeatedTree (SourceIndex.build "r" .default)
  refine ⟨frozen_answers repeatedTree, rfl, hreads, ?_⟩
  obtain ⟨hbuilt, hroles, hdistinct, -⟩ :=
    build_eq_ofFiles (frozen_answers repeatedTree) .default rfl hreads
  have hfiles : readableFiles
      (fun path => (repeatedTree.files.lookup path).getD (.error FileTable.missing))
      ["b.cs", "a.svc", "x", "b.cs", "c.cs", "a.svc", "c.cs"] =
        [.ofContent "b.cs" "B", .ofContent "a.svc" "S", .ofContent "b.cs" "B",
          .ofContent "a.svc" "S"] := by
    decide +kernel
  have hdeclarations : ([.ofContent "b.cs" "B", .ofContent "a.svc" "S", .ofContent "b.cs" "B",
      .ofContent "a.svc" "S"] : List SourceFile).filter
        (fun file => Path.hasExtension file.path Config.default.declarationExtension) =
      [.ofContent "b.cs" "B", .ofContent "b.cs" "B"] := by
    decide +kernel
  have hdescriptors : ([.ofContent "b.cs" "B", .ofContent "a.svc" "S", .ofContent "b.cs" "B",
      .ofContent "a.svc" "S"] : List SourceFile).filter
        (fun file => isDescriptorPath Config.default file.path) =
      [.ofContent "a.svc" "S", .ofContent "a.svc" "S"] := by
    decide +kernel
  rw [hfiles, hdeclarations, hdescriptors] at hbuilt hroles hdistinct
  exact ⟨hbuilt, hroles, hdistinct⟩

end ServiceLinker.Proofs
