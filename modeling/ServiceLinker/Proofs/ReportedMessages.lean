import ServiceLinker.FileSystem.Table
import ServiceLinker.Proofs.DescriptorParsing
import ServiceLinker.Proofs.LinkOutcomes
import ServiceLinker.Proofs.ScriptRuns

/-!
# Nothing is only in the log

Whoever has the report of a run knows its messages, apart from those that only help to find faults:
one for each unreadable file, and then one for each record and each descriptor that was skipped. What
the report leaves open is where the messages of the skipped descriptors stand among the others.
-/

namespace ServiceLinker.Proofs

open SourceIndex (Entry candidates dedup load)

/-! ### Interleaved lists -/

/-- The third list is made of the other two, each in its order. -/
inductive Interleaved {α : Type} : List α → List α → List α → Prop
  | nil : Interleaved [] [] []
  | left {a : α} {as bs cs : List α} : Interleaved as bs cs → Interleaved (a :: as) bs (a :: cs)
  | right {b : α} {as bs cs : List α} : Interleaved as bs cs → Interleaved as (b :: bs) (b :: cs)

/-! ### Messages -/

/-- The messages that are not only for finding faults. -/
def audible (log : List LogEntry) : List LogEntry := log.filter fun e => e.level ≠ .debug

lemma audible_append (log log' : List LogEntry) :
    audible (log ++ log') = audible log ++ audible log' :=
  List.filter_append log log'

/-- The message of a file that could not be read. -/
def unreadableMessage (d : Diagnostic) : LogEntry := ⟨.warn, d.message⟩

/-- The message of a descriptor that was skipped. -/
def skippedMessage (d : Diagnostic) : LogEntry := ⟨.warn, d.message ++ ". Skipping."⟩

/-- The message of a record: its three paths if it has them, or else what it misses. -/
def recordMessage (r : LinkedService) : LogEntry :=
  match r.implementationPath, r.interfacePath with
  | some implementation, some interface =>
    ⟨.info, "Found service " ++ r.serviceName ++ ": descriptor " ++ r.descriptorPath ++
      ", implementation " ++ implementation ++ ", interface " ++ interface⟩
  | _, _ =>
    ⟨.warn, "Could not link " ++ r.descriptorPath ++ " to its " ++
      " and ".intercalate (r.missing.map Relation.label)⟩

lemma announcement_eq (r : LinkedService) : r.announcement = recordMessage r := by
  unfold LinkedService.announcement LinkedService.isResolved recordMessage
  cases r.implementationPath <;> cases r.interfacePath <;> rfl

lemma audible_recordMessage (r : LinkedService) : audible [recordMessage r] = [recordMessage r] := by
  unfold recordMessage
  split <;> rfl

lemma recordMessage_info_iff (r : LinkedService) :
    (recordMessage r).level = .info ↔ r.isResolved = true := by
  unfold recordMessage LinkedService.isResolved
  cases r.implementationPath <;> cases r.interfacePath <;> simp

/-- The message of what became of a descriptor. -/
def resultMessage : Except Diagnostic LinkedService → LogEntry
  | .ok r => recordMessage r
  | .error d => skippedMessage d

/-- The messages of results are those of the records and those of the diagnostics. -/
lemma interleaved_reportOf (results : List (Except Diagnostic LinkedService)) :
    Interleaved ((reportOf results).records.map recordMessage)
      ((reportOf results).diagnostics.map skippedMessage) (results.map resultMessage) := by
  induction results with
  | nil => exact .nil
  | cons result results ih =>
    cases result with
    | ok r => exact .left ih
    | error d => exact .right ih

/-! ### Searches -/

/-- The names that are searched for: that of each service, and the base interface that its class
lists. -/
def searchedNames (index : SourceIndex) (c : Config) : List String :=
  (namedServices index).flatMap fun d =>
    d.simpleName :: (listedBase index d.simpleName
      (reportedPath? (classReport index c.ambiguity d.simpleName))).toList

section

variable (d : Declarations) {name : String} (hs : Pattern.searchable name = true)

include hs

lemma audible_findWhere (kind : Pattern.Kind) (p : SourceFile → Bool) :
    audible (d.findWhere name kind p).log = [] := by
  have hheader : Pattern.header? kind name = pure (some (Pattern.declares kind name)) := if_pos hs
  unfold Declarations.findWhere
  rw [hheader, pure_bind]
  dsimp only
  split <;> rfl

lemma audible_resolveImplementation : audible (d.resolveImplementation name).log = [] := by
  unfold Declarations.resolveImplementation
  rw [Logged.log_bind, audible_append, Declarations.find, audible_findWhere d hs, List.nil_append]
  split <;> rfl

lemma log_declaredInterface (implementation : Option SourceFile) :
    (Declarations.declaredInterface name implementation).log = [] := by
  cases implementation with
  | none => rfl
  | some file =>
    rw [Declarations.declaredInterface, Pattern.inherited?, if_pos hs]
    rfl

lemma audible_resolveInterface {implementation : Option SourceFile} (marker : String)
    (hbase : ∀ base, (Declarations.declaredInterface name implementation).value = some base →
      Pattern.searchable base = true) :
    audible (d.resolveInterface name implementation marker).log = [] := by
  unfold Declarations.resolveInterface
  rw [Logged.log_bind, log_declaredInterface hs, List.nil_append]
  cases hdeclared : (Declarations.declaredInterface name implementation).value with
  | none => rfl
  | some base =>
    dsimp only
    rw [Logged.log_bind, audible_append, audible_findWhere d (hbase base hdeclared),
      List.nil_append]
    split <;> rfl

end

section

variable {index : SourceIndex} {c : Config}
  (hnames : ∀ name ∈ searchedNames index c, Pattern.searchable name = true)

include hnames

/-- Of a descriptor there is only the message of its record. -/
lemma audible_linkDescriptor {d : ServiceDescriptor} (hd : d ∈ namedServices index) :
    audible (linkDescriptor index c d).log = [recordMessage (linkDescriptor index c d).value] := by
  have hsearched : ∀ name ∈ d.simpleName :: (listedBase index d.simpleName
      (reportedPath? (classReport index c.ambiguity d.simpleName))).toList,
        Pattern.searchable name = true :=
    fun name hname => hnames name (List.mem_flatMap.mpr ⟨d, hd, hname⟩)
  have hs := hsearched d.simpleName List.mem_cons_self
  have himplementation : (Declarations.resolveImplementation ⟨index.declarations, c.ambiguity⟩
      d.simpleName).value.toOption.map (·.path) =
        reportedPath? (classReport index c.ambiguity d.simpleName) := by
    rw [resolveImplementation_searched, toOption_map, Option.map_map]
    rfl
  unfold linkDescriptor
  simp only [Logged.log_bind, Logged.value_bind, Logged.log_pure, Logged.value_pure,
    Logged.log_note, audible_append, announcement_eq, List.append_nil, himplementation]
  rw [audible_resolveImplementation _ hs, audible_resolveInterface _ hs, List.nil_append,
    List.nil_append]
  · exact audible_recordMessage _
  · intro base hbase
    apply hsearched
    rw [listedBase, hbase]
    exact List.mem_cons_of_mem _ (List.mem_singleton_self base)

lemma audible_linkFile {file : SourceFile} (hfile : file ∈ dedup [] index.descriptors) :
    audible (linkFile index c file).log = [resultMessage (linkFile index c file).value] := by
  unfold linkFile
  cases hparse : ServiceDescriptor.parse file with
  | error e => rfl
  | ok d =>
    have hd : d ∈ namedServices index :=
      List.mem_filterMap.mpr ⟨file, hfile, by rw [hparse]; rfl⟩
    dsimp only
    rw [Logged.log_bind, audible_append, audible_linkDescriptor hnames hd]
    rfl

lemma audible_link : Interleaved ((link index c).value.records.map recordMessage)
    ((link index c).value.diagnostics.map skippedMessage) (audible (link index c).log) := by
  have hlog : audible (link index c).log = ((dedup [] index.descriptors).map fun file =>
      (linkFile index c file).value).map resultMessage := by
    unfold link
    rw [Logged.log_bind, Logged.log_pure, List.append_nil, Logged.log_traverse, audible,
      List.filter_flatMap, List.map_map, List.map_eq_flatMap]
    exact List.flatMap_congr fun file hfile => audible_linkFile hnames hfile
  rw [hlog, value_link_eq_reportOf]
  exact interleaved_reportOf _

end

lemma kind_of_mem_link {index : SourceIndex} {c : Config} {d : Diagnostic}
    (hd : d ∈ (link index c).value.diagnostics) : d.kind = .descriptorAttributeMissing := by
  rw [value_link] at hd
  obtain ⟨file, -, hfailure⟩ := List.mem_flatMap.mp hd
  cases hparse : ServiceDescriptor.parse file with
  | ok descriptor =>
    rw [hparse] at hfailure
    cases hfailure
  | error e =>
    rw [hparse] at hfailure
    rw [List.mem_singleton.mp hfailure, parse_error hparse]
    rfl

/-- The diagnostics of unreadable files and those of skipped descriptors can be told apart. -/
lemma filter_kinds {unreadable skipped : List Diagnostic}
    (hunreadable : ∀ d ∈ unreadable, d.kind = .fileUnreadable)
    (hskipped : ∀ d ∈ skipped, d.kind = .descriptorAttributeMissing) :
    (unreadable ++ skipped).filter (·.kind = .fileUnreadable) = unreadable ∧
      (unreadable ++ skipped).filter (·.kind = .descriptorAttributeMissing) = skipped := by
  have hfirst : ∀ d ∈ unreadable, (decide (d.kind = .fileUnreadable) = true) ∧
      ¬decide (d.kind = .descriptorAttributeMissing) = true := by
    intro d hd
    rw [hunreadable d hd]
    decide
  have hsecond : ∀ d ∈ skipped, (decide (d.kind = .descriptorAttributeMissing) = true) ∧
      ¬decide (d.kind = .fileUnreadable) = true := by
    intro d hd
    rw [hskipped d hd]
    decide
  constructor
  · rw [List.filter_append, List.filter_eq_self.mpr fun d hd => (hfirst d hd).1,
      List.filter_eq_nil_iff.mpr fun d hd => (hsecond d hd).2, List.append_nil]
  · rw [List.filter_append, List.filter_eq_nil_iff.mpr fun d hd => (hfirst d hd).2,
      List.filter_eq_self.mpr fun d hd => (hsecond d hd).1, List.nil_append]

/-! ### Runs -/

section

variable {σ : Type} {fs : FileSystem σ} {s t : σ} {log : List LogEntry}

lemma log_of_run_request {r : Request} {a : r.Answer}
    (h : (Script.request r).run fs s = ⟨.ok a, t, log⟩) : log = [] := by
  rw [Script.request, Script.run] at h
  split at h <;> cases h
  rfl

lemma log_of_run_load {x : Role × String} {entry : Entry}
    (h : (load x).run fs s = ⟨.ok entry, t, log⟩) :
    log = entry.diagnostic?.toList.map unreadableMessage ∧
      ∀ d ∈ entry.diagnostic?, d.kind = .fileUnreadable := by
  unfold SourceIndex.load at h
  obtain ⟨answer, s₁, log₁, log₂, hread, hrest, rfl⟩ := exists_of_run_bind h
  rw [log_of_run_request hread, List.nil_append]
  cases answer with
  | ok text =>
    cases hrest
    exact ⟨rfl, fun d hd => by cases hd⟩
  | error reason =>
    cases hrest
    exact ⟨rfl, fun d hd => by cases hd; rfl⟩

lemma log_of_run_traverse_load {xs : List (Role × String)} {entries : List Entry}
    (h : (Script.traverse load xs).run fs s = ⟨.ok entries, t, log⟩) :
    log = (entries.filterMap Entry.diagnostic?).map unreadableMessage ∧
      ∀ d ∈ entries.filterMap Entry.diagnostic?, d.kind = .fileUnreadable := by
  induction xs generalizing s log entries with
  | nil =>
    cases h
    exact ⟨rfl, fun d hd => by cases hd⟩
  | cons x xs ih =>
    unfold Script.traverse at h
    obtain ⟨entry, s₁, log₁, rest, hentry, hrest, rfl⟩ := exists_of_run_bind h
    obtain ⟨entries', s₂, log₂, log₃, hentries, hdone, rfl⟩ := exists_of_run_bind hrest
    cases hdone
    obtain ⟨hlog, hkind⟩ := log_of_run_load hentry
    obtain ⟨hlogs, hkinds⟩ := ih hentries
    have hdiagnostics : (entry :: entries').filterMap Entry.diagnostic? =
        entry.diagnostic?.toList ++ entries'.filterMap Entry.diagnostic? := by
      rw [List.filterMap_cons]
      cases entry.diagnostic? <;> rfl
    rw [hlog, hlogs, List.append_nil, hdiagnostics, List.map_append]
    refine ⟨rfl, fun d hd => ?_⟩
    rcases List.mem_append.mp hd with hd | hd
    · exact hkind d (Option.mem_toList.mp hd)
    · exact hkinds d hd

/-- What an index logs aloud are the files that could not be read. -/
lemma audible_of_run_build {root : String} {c : Config} {answer : Except LinkError
    (SourceIndex × List Diagnostic)}
    (h : (SourceIndex.build root c).run fs s = ⟨.ok answer, t, log⟩) :
    (∀ e, answer = .error e → audible log = []) ∧
      ∀ index diagnostics, answer = .ok (index, diagnostics) →
        audible log = diagnostics.map unreadableMessage ∧
          ∀ d ∈ diagnostics, d.kind = .fileUnreadable := by
  unfold SourceIndex.build at h
  obtain ⟨listing, s₁, log₁, rest, hwalk, hrest, rfl⟩ := exists_of_run_bind h
  rw [log_of_run_request hwalk, List.nil_append]
  cases listing with
  | error reason =>
    cases hrest
    exact ⟨fun e _ => rfl, fun index diagnostics h => by cases h⟩
  | ok paths =>
    obtain ⟨entries, s₂, log₂, log₃, hentries, hdone, rfl⟩ := exists_of_run_bind hrest
    obtain ⟨hlog, hkinds⟩ := log_of_run_traverse_load hentries
    cases hdone
    refine ⟨fun e h => (by cases h), fun index diagnostics h => ?_⟩
    cases h
    refine ⟨?_, hkinds⟩
    have hloud : audible log₂ = log₂ := by
      rw [audible, List.filter_eq_self, hlog]
      intro e he
      obtain ⟨d, -, rfl⟩ := List.mem_map.mp he
      rfl
    rw [audible_append, hloud, hlog]
    exact List.append_nil _

end

/-- The messages of a report: those of the unreadable files, and then those of the records and of
the skipped descriptors, which may stand in any order among each other. -/
def MessagesOf (report : LinkReport) (messages : List LogEntry) : Prop :=
  ∃ rest, Interleaved (report.records.map recordMessage)
      ((report.diagnostics.filter (·.kind = .descriptorAttributeMissing)).map skippedMessage) rest ∧
    messages =
      (report.diagnostics.filter (·.kind = .fileUnreadable)).map unreadableMessage ++ rest

/-- A file system that logs nothing of its own is taken through a tree. Apart from what only helps to
find faults, the messages are those of the report that is returned, and none if there is no report.
Only a resolved record is announced without a warning. -/
theorem linkTree_messages {σ : Type} {fs : FileSystem σ} {root : String} {c : Config} {s t : σ}
    {answer : Except LinkError LinkReport} {log : List LogEntry}
    (hrun : (linkTree root c).run fs s = ⟨.ok answer, t, log⟩)
    (hnames : ∀ index diagnostics,
      ((SourceIndex.build root c).run fs s).result = .ok (.ok (index, diagnostics)) →
        ∀ name ∈ searchedNames index c, Pattern.searchable name = true) :
    (∀ e, answer = .error e → audible log = []) ∧
      ∀ report, answer = .ok report → MessagesOf report (audible log) ∧
        ∀ r ∈ report.records, (recordMessage r).level = .info ↔ r.isResolved = true := by
  unfold linkTree at hrun
  obtain ⟨built, s₁, log₁, log₂, hbuild, hrest, rfl⟩ := exists_of_run_bind hrun
  obtain ⟨hquiet, hloud⟩ := audible_of_run_build hbuild
  cases built with
  | error e =>
    cases hrest
    refine ⟨fun _ _ => ?_, fun report h => by cases h⟩
    rw [List.append_nil]
    exact hquiet e rfl
  | ok built =>
    obtain ⟨index, diagnostics⟩ := built
    obtain ⟨hlog, hkinds⟩ := hloud index diagnostics rfl
    have hnames' := hnames index diagnostics (by rw [hbuild])
    rw [run_bind_ok (run_ofLogged fs (link index c) s₁)] at hrest
    cases hrest
    obtain ⟨hunreadable, hskipped⟩ :=
      filter_kinds hkinds fun d (hd : d ∈ (link index c).value.diagnostics) => kind_of_mem_link hd
    refine ⟨fun e h => (by cases h), fun report h => ?_⟩
    cases h
    refine ⟨⟨audible (link index c).log, ?_, ?_⟩, fun r _ => recordMessage_info_iff r⟩
    · dsimp only
      rw [hskipped]
      exact audible_link hnames'
    · dsimp only
      rw [hunreadable, audible_append, hlog, Script.run_pure, List.append_nil]

/-- One service of which everything is found, one of which nothing is found, a descriptor without a
service and a file that is gone. -/
def mixedFindings : FileTable :=
  ⟨.ok ["A.cs", "A.svc", "B.svc", "IA.cs", "c.svc", "gone.cs"],
    [("A.svc", .ok "Service=\x22A\x22"), ("B.svc", .ok "Service=\x22B\x22"), ("c.svc", .ok ""),
      ("A.cs", .ok "class A : IA"), ("IA.cs", .ok "interface IA [ServiceContract]")], []⟩

theorem linkTree_messages_mixedFindings :
    ∃ report t log,
      (linkTree "r" .default).run FileTable.fileSystem mixedFindings = ⟨.ok (.ok report), t, log⟩ ∧
      (∀ index diagnostics, ((SourceIndex.build "r" .default).run FileTable.fileSystem
          mixedFindings).result = .ok (.ok (index, diagnostics)) →
        ∀ name ∈ searchedNames index .default, Pattern.searchable name = true) ∧
      report.records.map (·.isResolved) = [true, false] ∧
      report.diagnostics.map (·.kind) = [.fileUnreadable, .descriptorAttributeMissing] ∧
      MessagesOf report (audible log) := by
  have hnames : ∀ index diagnostics, ((SourceIndex.build "r" .default).run FileTable.fileSystem
      mixedFindings).result = .ok (.ok (index, diagnostics)) →
        ∀ name ∈ searchedNames index .default, Pattern.searchable name = true := by
    intro index diagnostics hbuild
    have hall : (((SourceIndex.build "r" .default).run FileTable.fileSystem
        mixedFindings).result.toOption.bind (·.toOption)).all
          (fun built => (searchedNames built.1 .default).all Pattern.searchable) = true := by
      decide +kernel
    rw [hbuild] at hall
    exact List.all_eq_true.mp hall
  obtain ⟨answer, t, log, hrun⟩ := run_reaches_end FileTable.fileSystem_answers
    (linkTree "r" .default) mixedFindings
  have hresult : (((linkTree "r" .default).run FileTable.fileSystem
      mixedFindings).result.toOption.bind (·.toOption)).any
        (fun report => report.records.map (·.isResolved) = [true, false] ∧
          report.diagnostics.map (·.kind) = [.fileUnreadable, .descriptorAttributeMissing]) =
            true := by
    decide +kernel
  rw [hrun] at hresult
  cases answer with
  | error e => cases hresult
  | ok report =>
    obtain ⟨hrecords, hdiagnostics⟩ := of_decide_eq_true hresult
    exact ⟨report, t, log, hrun, hnames, hrecords, hdiagnostics,
      ((linkTree_messages hrun hnames).2 report rfl).1⟩

end ServiceLinker.Proofs
