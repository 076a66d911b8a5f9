import Mathlib
import ServiceLinker.FileSystem.Table
import ServiceLinker.Proofs.DescriptorParsing
import ServiceLinker.Proofs.LinkOutcomes
import ServiceLinker.Proofs.ScriptRuns

/-!
# What becomes of the files of a tree

A run lists a tree, reads every path that has one of the two extensions once, and accounts for
each of them: as a declaration, as a record, or as one diagnostic. This file gives the report of a
run as a function of the readings that the run made.
-/

namespace ServiceLinker.Proofs

open SourceIndex (Entry candidates dedup load)

/-! ### Listed paths -/

/-- The listed paths that have one of the two extensions, each at its first place. -/
def relevantPaths (c : Config) (paths : List String) : List String :=
  let relevant := paths.filter fun p =>
    Path.hasExtension p c.declarationExtension || Path.hasExtension p c.descriptorExtension
  relevant.eraseDups

/-- The path has the descriptor extension and not the declaration extension. -/
def isDescriptorPath (c : Config) (p : String) : Bool :=
  Path.hasExtension p c.descriptorExtension && !Path.hasExtension p c.declarationExtension

lemma isSome_role? (c : Config) (p : String) : (c.role? p).isSome =
    (Path.hasExtension p c.declarationExtension || Path.hasExtension p c.descriptorExtension) := by
  unfold Config.role?
  cases Path.hasExtension p c.declarationExtension <;>
    cases Path.hasExtension p c.descriptorExtension <;> rfl

lemma role?_eq_descriptor_iff (c : Config) (p : String) :
    c.role? p = some .descriptor ↔ isDescriptorPath c p = true := by
  unfold Config.role? isDescriptorPath
  cases Path.hasExtension p c.declarationExtension <;>
    cases Path.hasExtension p c.descriptorExtension <;> decide

lemma role?_of_mem_candidates {c : Config} {seen paths : List String} {x : Role × String}
    (h : x ∈ candidates c seen paths) : c.role? x.2 = some x.1 := by
  induction paths generalizing seen with
  | nil => cases h
  | cons p paths ih =>
    unfold candidates at h
    split at h
    · next role hrole =>
      split_ifs at h with hseen
      · exact ih h
      · rcases List.mem_cons.mp h with rfl | h
        · exact hrole
        · exact ih h
    · exact ih h

lemma map_snd_candidates (c : Config) (seen paths : List String) :
    (candidates c seen paths).map Prod.snd =
      (paths.filter fun p => (c.role? p).isSome && decide (p ∉ seen)).eraseDups := by
  induction paths generalizing seen with
  | nil => rfl
  | cons p paths ih =>
    unfold candidates
    cases hrole : c.role? p with
    | none =>
      rw [List.filter_cons_of_neg (by simp [hrole])]
      exact ih seen
    | some role =>
      dsimp only
      by_cases hseen : p ∈ seen
      · rw [if_pos hseen, List.filter_cons_of_neg (by simp [hseen])]
        exact ih seen
      · -- a path that was seen is a path that the filter erases
        have hrest : ((paths.filter fun q => (c.role? q).isSome && decide (q ∉ seen)).filter
            fun q => !q == p) =
            paths.filter fun q => (c.role? q).isSome && decide (q ∉ p :: seen) := by
          rw [List.filter_filter]
          apply List.filter_congr
          intro q _
          by_cases hq : q = p <;> simp [hq]
        rw [if_neg hseen, List.map_cons, List.filter_cons_of_pos (by simp [hrole, hseen]),
          List.eraseDups_cons, hrest, ih]

lemma nodup_candidates (c : Config) (seen paths : List String) :
    ((candidates c seen paths).map Prod.snd).Nodup ∧
      ∀ p ∈ (candidates c seen paths).map Prod.snd, p ∉ seen := by
  induction paths generalizing seen with
  | nil => exact ⟨List.nodup_nil, fun _ hp => absurd hp List.not_mem_nil⟩
  | cons p paths ih =>
    unfold candidates
    split
    · next role hrole =>
      split_ifs with hseen
      · exact ih seen
      · obtain ⟨hnodup, hfresh⟩ := ih (p :: seen)
        rw [List.map_cons, List.nodup_cons]
        refine ⟨⟨fun hp => hfresh p hp List.mem_cons_self, hnodup⟩, ?_⟩
        intro q hq
        rcases List.mem_cons.mp hq with rfl | hq
        · exact hseen
        · exact fun hmem => hfresh q hq (List.mem_cons_of_mem p hmem)
    · exact ih seen

lemma map_snd_candidates_nil (c : Config) (paths : List String) :
    (candidates c [] paths).map Prod.snd = relevantPaths c paths := by
  rw [map_snd_candidates, relevantPaths]
  congr 2
  funext p
  rw [isSome_role?]
  simp

lemma nodup_relevantPaths (c : Config) (paths : List String) : (relevantPaths c paths).Nodup := by
  rw [← map_snd_candidates_nil]
  exact (nodup_candidates c [] paths).1

/-! ### Readings -/

/-- A path that was read, and the answer. -/
abbrev Reading := String × Except String String

def Reading.call (r : Reading) : Call := ⟨.readText r.1, r.2⟩

/-- Readings that were answered as given are known from their paths. -/
lemma map_fst_readings {contents : String → Except String String} {reads : List Reading}
    (h : ∀ r ∈ reads, r.2 = contents r.1) :
    (reads.map Prod.fst).map (fun p => (p, contents p)) = reads := by
  have hread : ∀ r ∈ reads, (r.1, contents r.1) = r := fun r hr => by rw [← h r hr]
  rw [List.map_map]
  exact (List.map_congr_left hread).trans (List.map_id reads)

/-- The diagnostic of a reading that failed. -/
def Reading.unreadable? : Reading → Option Diagnostic
  | (p, .error reason) => some (.ofError p (.fileUnreadable p reason))
  | (_, .ok _) => none

/-- The file that a reading gives in a role. -/
def Reading.fileIn? (c : Config) (role : Role) : Reading → Option SourceFile
  | (p, .ok text) => if c.role? p = some role then some (.ofContent p text) else none
  | (_, .error _) => none

/-- What the index keeps of a reading. -/
def Reading.entry? (c : Config) : Reading → Option Entry
  | (p, .ok text) => (c.role? p).map fun role => .file role (.ofContent p text)
  | (p, .error reason) =>
    (c.role? p).map fun _ => .unreadable (.ofError p (.fileUnreadable p reason))

/-- The index of the readings of a run. -/
def indexOf (c : Config) (reads : List Reading) : SourceIndex :=
  ⟨reads.filterMap (Reading.fileIn? c .declaration),
    reads.filterMap (Reading.fileIn? c .descriptor)⟩

lemma ofEntries_readings {c : Config} {reads : List Reading}
    (h : ∀ r ∈ reads, (c.role? r.1).isSome = true) :
    SourceIndex.ofEntries (reads.filterMap (Reading.entry? c)) =
      (indexOf c reads, reads.filterMap Reading.unreadable?) := by
  have hfiles : ∀ role, (reads.filterMap (Reading.entry? c)).filterMap (Entry.fileOf? role) =
      reads.filterMap (Reading.fileIn? c role) := by
    intro role
    rw [List.filterMap_filterMap]
    congr 1
    funext r
    obtain ⟨p, a⟩ := r
    cases a <;> cases hrole : c.role? p <;>
      simp [Reading.entry?, Reading.fileIn?, Entry.fileOf?, hrole]
  have hdiagnostics : (reads.filterMap (Reading.entry? c)).filterMap Entry.diagnostic? =
      reads.filterMap Reading.unreadable? := by
    rw [List.filterMap_filterMap]
    apply List.filterMap_congr
    intro r hr
    obtain ⟨role, hrole⟩ := Option.isSome_iff_exists.mp (h r hr)
    obtain ⟨p, a⟩ := r
    cases a <;> simp [Reading.entry?, Reading.unreadable?, Entry.diagnostic?, hrole]
  rw [SourceIndex.ofEntries, hfiles, hfiles, hdiagnostics, indexOf]

section

variable {σ : Type} {fs : FileSystem σ}

lemma run_load (hfs : fs.Answers) {c : Config} {x : Role × String} (hx : c.role? x.2 = some x.1)
    (s : σ) : ∃ a e s' log, Reading.entry? c (x.2, a) = some e ∧
      (load x).run fs s = ⟨.ok e, s', log⟩ ∧ callsOf fs (load x) s = [⟨.readText x.2, a⟩] := by
  obtain ⟨a, ha⟩ := hfs (.readText x.2) s
  rcases h : fs.answer (.readText x.2) s with ⟨b, s'⟩
  rw [h] at ha
  dsimp only at ha
  subst ha
  have hcalls : callsOf fs (load x) s = [⟨.readText x.2, a⟩] := by
    change callsOf fs (.ask (.readText x.2) _) s = _
    rw [callsOf_ask_ok h]
    cases a <;> rfl
  have hrun : ∃ e log, Reading.entry? c (x.2, a) = some e ∧
      (load x).run fs s = ⟨.ok e, s', log⟩ := by
    unfold SourceIndex.load Script.readText
    rw [run_bind_ok (run_request_ok h)]
    cases a with
    | error reason =>
      exact ⟨.unreadable (.ofError x.2 (.fileUnreadable x.2 reason)), _,
        by rw [Reading.entry?, hx, Option.map_some], rfl⟩
    | ok text =>
      exact ⟨.file x.1 (.ofContent x.2 text), _,
        by rw [Reading.entry?, hx, Option.map_some], rfl⟩
  obtain ⟨e, log, hentry, hload⟩ := hrun
  exact ⟨a, e, s', log, hentry, hload, hcalls⟩

lemma run_traverse_load (hfs : fs.Answers) {c : Config} (xs : List (Role × String))
    (hxs : ∀ x ∈ xs, c.role? x.2 = some x.1) (s : σ) :
    ∃ (reads : List Reading) (s' : σ) (log : List LogEntry),
      reads.map Prod.fst = xs.map Prod.snd ∧
      (Script.traverse load xs).run fs s =
        ⟨.ok (reads.filterMap (Reading.entry? c)), s', log⟩ ∧
      callsOf fs (Script.traverse load xs) s = reads.map Reading.call := by
  induction xs generalizing s with
  | nil => exact ⟨[], s, [], rfl, rfl, rfl⟩
  | cons x xs ih =>
    obtain ⟨a, e, s₁, log₁, hentry, hload, hcall⟩ := run_load hfs (hxs x List.mem_cons_self) s
    obtain ⟨reads, s₂, log₂, hpaths, hrun, hcalls⟩ :=
      ih (fun y hy => hxs y (List.mem_cons_of_mem x hy)) s₁
    refine ⟨(x.2, a) :: reads, s₂, log₁ ++ (log₂ ++ []), ?_, ?_, ?_⟩
    · rw [List.map_cons, List.map_cons, hpaths]
    · rw [Script.traverse, run_bind_ok hload, run_bind_ok hrun, List.filterMap_cons_some hentry]
      rfl
    · rw [Script.traverse, callsOf_bind hload, callsOf_bind hrun, hcall, hcalls, List.map_cons]
      exact congrArg _ (List.append_nil _)

lemma run_build (hfs : fs.Answers) {root : String} (c : Config) {paths : List String} {s s' : σ}
    (h : fs.answer (.walkFiles root) s = (.ok (.ok paths), s')) :
    ∃ (reads : List Reading) (t : σ), reads.map Prod.fst = relevantPaths c paths ∧
      callsOf fs (SourceIndex.build root c) s =
        ⟨.walkFiles root, .ok paths⟩ :: reads.map Reading.call ∧
      ∃ log, (SourceIndex.build root c).run fs s =
        ⟨.ok (.ok (indexOf c reads, reads.filterMap Reading.unreadable?)), t, log⟩ := by
  have hroles : ∀ x ∈ candidates c [] paths, c.role? x.2 = some x.1 :=
    fun x hx => role?_of_mem_candidates hx
  obtain ⟨reads, t, log, hpaths, hrun, hcalls⟩ := run_traverse_load hfs _ hroles s'
  have hread : ∀ r ∈ reads, (c.role? r.1).isSome = true := by
    intro r hr
    have hmem := List.mem_map_of_mem (f := Prod.fst) hr
    rw [hpaths] at hmem
    obtain ⟨x, hx, hxr⟩ := List.mem_map.mp hmem
    rw [← hxr, hroles x hx]
    rfl
  have hwalk : (Script.walkFiles root).run fs s = ⟨.ok (.ok paths), s', []⟩ := run_request_ok h
  have hwalkCalls : callsOf fs (Script.walkFiles root) s = [⟨.walkFiles root, .ok paths⟩] :=
    callsOf_request_ok h
  refine ⟨reads, t, hpaths.trans (map_snd_candidates_nil c paths), ?_, ?_⟩
  · unfold SourceIndex.build
    rw [callsOf_bind hwalk, hwalkCalls]
    dsimp only
    rw [callsOf_bind hrun, hcalls]
    exact congrArg (List.cons _) (List.append_nil _)
  · unfold SourceIndex.build
    rw [run_bind_ok hwalk]
    dsimp only
    rw [run_bind_ok hrun, run_bind_ok (run_log ..), ofEntries_readings hread]
    exact ⟨_, rfl⟩

end

/-! ### Reports -/

lemma dedup_of_nodup {files : List SourceFile} (h : (files.map (·.path)).Nodup)
    {seen : List String} (hseen : ∀ f ∈ files, f.path ∉ seen) : dedup seen files = files := by
  induction files generalizing seen with
  | nil => rfl
  | cons f files ih =>
    rw [List.map_cons, List.nodup_cons] at h
    rw [dedup, if_neg (hseen f List.mem_cons_self), ih h.2]
    intro g hg hmem
    rcases List.mem_cons.mp hmem with heq | hmem
    · exact h.1 (heq ▸ List.mem_map_of_mem hg)
    · exact hseen g (List.mem_cons_of_mem f hg) hmem

lemma path_of_fileIn? {c : Config} {role : Role} {r : Reading} {file : SourceFile}
    (h : r.fileIn? c role = some file) : file.path = r.1 := by
  obtain ⟨p, e | text⟩ := r
  · cases h
  · rw [Reading.fileIn?] at h
    split_ifs at h
    cases h
    rfl

lemma nodup_paths_of_readings {reads : List Reading} (h : (reads.map Prod.fst).Nodup) (c : Config)
    (role : Role) : ((reads.filterMap (Reading.fileIn? c role)).map (·.path)).Nodup := by
  refine List.Nodup.sublist ?_ h
  clear h
  induction reads with
  | nil => exact List.Sublist.refl _
  | cons r reads ih =>
    cases hfile : r.fileIn? c role with
    | none =>
      rw [List.filterMap_cons_none hfile]
      exact ih.cons _
    | some file =>
      rw [List.filterMap_cons_some hfile, List.map_cons, List.map_cons, path_of_fileIn? hfile]
      exact ih.cons_cons _

/-- The descriptor that a reading gives, if it names a service. -/
def Reading.descriptor? (c : Config) (r : Reading) : Option ServiceDescriptor :=
  (r.fileIn? c .descriptor).bind fun file => (ServiceDescriptor.parse file).toOption

/-- The diagnostic of a reading of a descriptor that names no service. -/
def Reading.refusal? (c : Config) (r : Reading) : Option Diagnostic :=
  (r.fileIn? c .descriptor).bind fun file =>
    match ServiceDescriptor.parse file with
    | .ok _ => none
    | .error _ => some (.ofError r.1 (.descriptorAttributeMissing r.1))

/-- The report of a run that made the given readings. -/
def treeReport (root : String) (c : Config) (reads : List Reading) : LinkReport where
  root := root
  records := (reads.filterMap (Reading.descriptor? c)).map fun d =>
    (linkDescriptor (indexOf c reads) c d).value
  diagnostics := reads.filterMap Reading.unreadable? ++ reads.filterMap (Reading.refusal? c)

lemma dedup_descriptors_indexOf {reads : List Reading} (h : (reads.map Prod.fst).Nodup)
    (c : Config) : dedup [] (indexOf c reads).descriptors =
      reads.filterMap (Reading.fileIn? c .descriptor) :=
  dedup_of_nodup (nodup_paths_of_readings h c .descriptor) fun _ _ => List.not_mem_nil

lemma namedServices_indexOf {reads : List Reading} (h : (reads.map Prod.fst).Nodup) (c : Config) :
    namedServices (indexOf c reads) = reads.filterMap (Reading.descriptor? c) := by
  rw [namedServices, dedup_descriptors_indexOf h, List.filterMap_filterMap]
  rfl

lemma refusals_indexOf {reads : List Reading} (h : (reads.map Prod.fst).Nodup) (c : Config) :
    refusals (indexOf c reads) = reads.filterMap (Reading.refusal? c) := by
  rw [refusals, dedup_descriptors_indexOf h, List.filterMap_eq_flatMap_toList,
    List.filterMap_eq_flatMap_toList, List.flatMap_assoc]
  congr 1
  funext r
  cases hfile : r.fileIn? c .descriptor with
  | none => simp [Reading.refusal?, hfile]
  | some file =>
    cases hparse : ServiceDescriptor.parse file with
    | ok d => simp [Reading.refusal?, hfile, hparse, failure]
    | error e =>
      simp [Reading.refusal?, hfile, hparse, failure, parse_error hparse, path_of_fileIn? hfile]

lemma link_value {reads : List Reading} (h : (reads.map Prod.fst).Nodup) (c : Config) :
    (link (indexOf c reads) c).value =
      { root := ""
        records := (reads.filterMap (Reading.descriptor? c)).map fun d =>
          (linkDescriptor (indexOf c reads) c d).value
        diagnostics := reads.filterMap (Reading.refusal? c) } := by
  rw [value_link, namedServices_indexOf h, refusals_indexOf h]
  simp only [linkDescriptor_value]

section

variable {σ : Type} {fs : FileSystem σ}

lemma run_linkTree_unlisted {root reason : String} (c : Config) {s s' : σ}
    (h : fs.answer (.walkFiles root) s = (.ok (.error reason), s')) :
    (linkTree root c).run fs s = ⟨.ok (.error (.rootUnreadable root reason)), s', []⟩ ∧
      callsOf fs (linkTree root c) s = [⟨.walkFiles root, .error reason⟩] := by
  have hwalk : (Script.walkFiles root).run fs s = ⟨.ok (.error reason), s', []⟩ := run_request_ok h
  have hwalkCalls : callsOf fs (Script.walkFiles root) s = [⟨.walkFiles root, .error reason⟩] :=
    callsOf_request_ok h
  have hbuild : (SourceIndex.build root c).run fs s =
      ⟨.ok (.error (.rootUnreadable root reason)), s', []⟩ := by
    unfold SourceIndex.build
    rw [run_bind_ok hwalk]
    rfl
  have hbuildCalls : callsOf fs (SourceIndex.build root c) s =
      [⟨.walkFiles root, .error reason⟩] := by
    unfold SourceIndex.build
    rw [callsOf_bind hwalk, hwalkCalls]
    rfl
  unfold linkTree
  rw [run_bind_ok hbuild, callsOf_bind hbuild, hbuildCalls]
  exact ⟨rfl, rfl⟩

/-- A run that makes a report has listed its root. -/
lemma walk_of_run_linkTree (hfs : fs.Answers) {root : String} {c : Config} {s s' : σ}
    {report : LinkReport} {log : List LogEntry}
    (h : (linkTree root c).run fs s = ⟨.ok (.ok report), s', log⟩) :
    ∃ paths t, fs.answer (.walkFiles root) s = (.ok (.ok paths), t) := by
  obtain ⟨listing, hlisting⟩ := hfs (.walkFiles root) s
  rcases hanswer : fs.answer (.walkFiles root) s with ⟨answer, t⟩
  rw [hanswer] at hlisting
  dsimp only at hlisting
  subst hlisting
  cases listing with
  | ok paths => exact ⟨paths, t, rfl⟩
  | error reason =>
    have hrun := (run_linkTree_unlisted c hanswer).1
    rw [h] at hrun
    cases hrun

/-- A run that lists its root reports what its readings make. -/
lemma run_linkTree (hfs : fs.Answers) {root : String} (c : Config) {paths : List String} {s s' : σ}
    (h : fs.answer (.walkFiles root) s = (.ok (.ok paths), s')) :
    ∃ reads : List Reading, reads.map Prod.fst = relevantPaths c paths ∧
      callsOf fs (linkTree root c) s =
        ⟨.walkFiles root, .ok paths⟩ :: reads.map Reading.call ∧
      ((linkTree root c).run fs s).result = .ok (.ok (treeReport root c reads)) := by
  obtain ⟨reads, t, hpaths, hcalls, log, hrun⟩ := run_build hfs c h
  have hnodup : (reads.map Prod.fst).Nodup := by
    rw [hpaths]
    exact nodup_relevantPaths c paths
  have hlink := run_ofLogged fs (link (indexOf c reads) c) t
  refine ⟨reads, hpaths, ?_, ?_⟩
  · unfold linkTree
    rw [callsOf_bind hrun, hcalls]
    dsimp only
    rw [callsOf_bind hlink, callsOf_ofLogged]
    exact List.append_nil _
  · unfold linkTree
    rw [run_bind_ok hrun]
    dsimp only
    rw [run_bind_ok hlink, link_value hnodup]
    rfl

end

/-! ### The account of a run -/

/-- The reading gives a text that names a service. -/
def Reading.namesService : Reading → Bool
  | (p, .ok text) => (ServiceDescriptor.parse (.ofContent p text)).toOption.isSome
  | (_, .error _) => false

/-- The reading gives a text that names no service. -/
def Reading.lacksService : Reading → Bool
  | (p, .ok text) => (ServiceDescriptor.parse (.ofContent p text)).toOption.isNone
  | (_, .error _) => false

lemma filterMap_eq_map_filter {α β : Type} {f : α → β} {g : α → Option β} {p : α → Bool}
    (h : ∀ a, g a = if p a = true then some (f a) else none) (as : List α) :
    as.filterMap g = (as.filter p).map f := by
  rw [← List.filterMap_eq_map, List.filterMap_filter]
  congr 1
  funext a
  exact h a

lemma fileIn?_descriptor (c : Config) (p text : String) :
    Reading.fileIn? c .descriptor (p, .ok text) =
      if isDescriptorPath c p = true then some (.ofContent p text) else none := by
  rw [Reading.fileIn?]
  simp only [role?_eq_descriptor_iff]

lemma path_descriptor? (c : Config) (r : Reading) : (r.descriptor? c).map (·.path) =
    if (isDescriptorPath c r.1 && r.namesService) = true then some r.1 else none := by
  obtain ⟨p, e | text⟩ := r
  · simp [Reading.descriptor?, Reading.fileIn?, Reading.namesService]
  · rw [Reading.descriptor?, fileIn?_descriptor, Reading.namesService]
    by_cases hp : isDescriptorPath c p = true
    · rw [if_pos hp, Option.bind_some]
      cases hparse : ServiceDescriptor.parse (.ofContent p text) with
      | ok d =>
        have hpath : d.path = p := path_of_parse_ok hparse
        simp [Except.toOption, hp, hpath]
      | error e => simp [Except.toOption]
    · simp [hp]

lemma refusal?_eq (c : Config) (r : Reading) : r.refusal? c =
    if (isDescriptorPath c r.1 && r.lacksService) = true
      then some (.ofError r.1 (.descriptorAttributeMissing r.1)) else none := by
  obtain ⟨p, e | text⟩ := r
  · simp [Reading.refusal?, Reading.fileIn?, Reading.lacksService]
  · rw [Reading.refusal?, fileIn?_descriptor, Reading.lacksService]
    by_cases hp : isDescriptorPath c p = true
    · rw [if_pos hp, Option.bind_some]
      cases hparse : ServiceDescriptor.parse (.ofContent p text) <;>
        simp [Except.toOption, hp]
    · simp [hp]

lemma paths_treeReport (root : String) (c : Config) (reads : List Reading) :
    (treeReport root c reads).records.map (·.descriptorPath) =
      (reads.filter fun r => isDescriptorPath c r.1 && r.namesService).map Prod.fst := by
  rw [← filterMap_eq_map_filter (path_descriptor? c) reads, treeReport, List.map_map,
    ← List.map_filterMap]
  rfl

lemma diagnostics_treeReport (root : String) (c : Config) (reads : List Reading) :
    (treeReport root c reads).diagnostics = reads.filterMap Reading.unreadable? ++
      (reads.filter fun r => isDescriptorPath c r.1 && r.lacksService).map
        fun r => .ofError r.1 (.descriptorAttributeMissing r.1) := by
  rw [← filterMap_eq_map_filter (refusal?_eq c) reads, treeReport]

/-- No file of a listed tree is lost, read twice or reported twice: every relevant path is read
once, in the order of the listing; the descriptors that name a service have one record each, in
that order; the paths that could not be read and then the descriptors that name no service have
one diagnostic each. If the root cannot be listed, nothing is read. -/
theorem linkTree_accounts {σ : Type} {fs : FileSystem σ} (hfs : fs.Answers) (root : String)
    (c : Config) (s : σ) :
    (∀ paths s', fs.answer (.walkFiles root) s = (.ok (.ok paths), s') →
      ∃ (reads : List Reading) (report : LinkReport),
        (relevantPaths c paths).Nodup ∧ reads.map Prod.fst = relevantPaths c paths ∧
        callsOf fs (linkTree root c) s =
          ⟨.walkFiles root, .ok paths⟩ :: reads.map Reading.call ∧
        ((linkTree root c).run fs s).result = .ok (.ok report) ∧
        report.records.map (·.descriptorPath) =
          (reads.filter fun r => isDescriptorPath c r.1 && r.namesService).map Prod.fst ∧
        report.diagnostics = reads.filterMap Reading.unreadable? ++
          (reads.filter fun r => isDescriptorPath c r.1 && r.lacksService).map
            fun r => .ofError r.1 (.descriptorAttributeMissing r.1)) ∧
      ∀ reason s', fs.answer (.walkFiles root) s = (.ok (.error reason), s') →
        ((linkTree root c).run fs s).result = .ok (.error (.rootUnreadable root reason)) ∧
        callsOf fs (linkTree root c) s = [⟨.walkFiles root, .error reason⟩] := by
  refine ⟨?_, ?_⟩
  · intro paths s' h
    obtain ⟨reads, hpaths, hcalls, hresult⟩ := run_linkTree hfs c h
    exact ⟨reads, treeReport root c reads, nodup_relevantPaths c paths, hpaths, hcalls, hresult,
      paths_treeReport root c reads, diagnostics_treeReport root c reads⟩
  · intro reason s' h
    obtain ⟨hrun, hcalls⟩ := run_linkTree_unlisted c h
    exact ⟨by rw [hrun], hcalls⟩

/-- A listing with a repeated path and a path without a role, and a descriptor that is missing. -/
def mixedTree : FileTable :=
  ⟨.ok ["b.svc", "a.cs", "x", "b.svc", "d.svc", "c.svc"],
    [("a.cs", .ok ""), ("b.svc", .ok "Service=\x22S\x22"), ("c.svc", .ok "")], []⟩

theorem linkTree_accounts_mixedTree :
    FileTable.fileSystem.Answers ∧
      ∃ (reads : List Reading) (report : LinkReport),
        reads.map Prod.fst = ["b.svc", "a.cs", "d.svc", "c.svc"] ∧
        callsOf FileTable.fileSystem (linkTree "r" .default) mixedTree =
          ⟨.walkFiles "r", mixedTree.listing⟩ :: reads.map Reading.call ∧
        ((linkTree "r" .default).run FileTable.fileSystem mixedTree).result = .ok (.ok report) ∧
        report.records.map (·.descriptorPath) =
          (reads.filter fun r => isDescriptorPath .default r.1 && r.namesService).map Prod.fst ∧
        report.diagnostics = reads.filterMap Reading.unreadable? ++
          (reads.filter fun r => isDescriptorPath .default r.1 && r.lacksService).map
            fun r => .ofError r.1 (.descriptorAttributeMissing r.1) := by
  have hrelevant : relevantPaths .default ["b.svc", "a.cs", "x", "b.svc", "d.svc", "c.svc"] =
      ["b.svc", "a.cs", "d.svc", "c.svc"] := by decide +kernel
  obtain ⟨reads, report, -, hpaths, hcalls, hresult, hrecords, hdiagnostics⟩ :=
    (linkTree_accounts FileTable.fileSystem_answers "r" .default mixedTree).1 _ mixedTree rfl
  rw [hrelevant] at hpaths
  exact ⟨FileTable.fileSystem_answers, reads, report, hpaths, hcalls, hresult, hrecords,
    hdiagnostics⟩

end ServiceLinker.Proofs
