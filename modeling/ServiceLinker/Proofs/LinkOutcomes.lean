import ServiceLinker.Proofs.LinkMeaning

/-!
# Outcomes of a link

A link makes one record for each descriptor that names a service, and a record is a function of what
its two searches report. This file brings a link into that form, in which runs under different
policies or over different declarations can be compared.
-/

namespace ServiceLinker.Proofs

open SourceIndex (dedup)

/-! ### The reports behind a record -/

/-- What is reported about the class of a service. -/
def classReport (index : SourceIndex) (policy : AmbiguityPolicy) (service : String) :
    Except LinkError SourceFile :=
  reported policy "class" service (.implementationNotFound service)
    (searched service (implementers index service))

/-- What the search for a contract reports. -/
def ContractSearch.report (search : ContractSearch) (policy : AmbiguityPolicy) (service : String) :
    Except LinkError SourceFile :=
  reported policy search.label search.name (.interfaceNotFound service) search.files

/-- The path that a report gives. -/
def reportedPath? (report : Except LinkError SourceFile) : Option String :=
  report.toOption.map (·.path)

/-- The base interface that the file at a path lists. -/
def listedBase (index : SourceIndex) (service : String) (path : Option String) : Option String :=
  (Declarations.declaredInterface service (path.bind index.declaration?)).value

/-- The record of a descriptor with given reports. -/
def recordOf (d : ServiceDescriptor) (implementation interface : Except LinkError SourceFile)
    (source : InterfaceSource) : LinkedService where
  serviceName := d.simpleName
  qualifiedName := d.declaredTypeName
  descriptorPath := d.path
  implementationPath := reportedPath? implementation
  interfacePath := reportedPath? interface
  interfaceSource := interface.toOption.map fun _ => source
  diagnostics := failure d.path implementation ++ failure d.path interface

/-- The search that decides the contract of a descriptor whose class is reported. -/
def contractSearchOf (index : SourceIndex) (marker : String) (d : ServiceDescriptor)
    (implementation : Except LinkError SourceFile) : ContractSearch :=
  contractSearch index d.simpleName marker
    (listedBase index d.simpleName (reportedPath? implementation))

lemma toOption_map {α : Type} (report : Except LinkError SourceFile) (f : SourceFile → α) :
    (report.map f).toOption = report.toOption.map f := by
  cases report <;> rfl

lemma failure_map {α : Type} (path : String) (report : Except LinkError SourceFile)
    (f : SourceFile → α) : failure path (report.map f) = failure path report := by
  cases report <;> rfl

/-- The record of a descriptor under a policy. -/
def recordUnder (index : SourceIndex) (marker : String) (policy : AmbiguityPolicy)
    (d : ServiceDescriptor) : LinkedService :=
  let implementation := classReport index policy d.simpleName
  let search := contractSearchOf index marker d implementation
  recordOf d implementation (search.report policy d.simpleName) search.source

lemma linkDescriptor_value (index : SourceIndex) (c : Config) (d : ServiceDescriptor) :
    (linkDescriptor index c d).value = recordUnder index c.contractMarker c.ambiguity d := by
  simp only [linkDescriptor, Logged.value_bind, Logged.value_pure, resolveImplementation_searched,
    resolveInterface_searched, toOption_map, failure_map, Option.map_map]
  rfl

/-! ### Files that are reported -/

lemma mem_of_searched {name : String} {files : List SourceFile} {file : SourceFile}
    (h : file ∈ searched name files) : Pattern.searchable name = true ∧ file ∈ files := by
  unfold searched at h
  split_ifs at h with hs
  · exact ⟨hs, h⟩
  · cases h

lemma mem_of_reported {policy : AmbiguityPolicy} {label name : String} {missing : LinkError}
    {files : List SourceFile} {file : SourceFile}
    (h : reported policy label name missing files = .ok file) : file ∈ files := by
  unfold reported at h
  split at h
  · next found hfound =>
    rw [Except.ok.injEq] at h
    rw [← h]
    exact pick_mem hfound
  · cases h

lemma mem_of_contractSearch {index : SourceIndex} {service marker : String} {base : Option String}
    {file : SourceFile} (h : file ∈ (contractSearch index service marker base).files) :
    file ∈ index.declarations ∧ Text.contains file.content marker = true := by
  have hnamed : file ∈ namedContracts index service marker →
      file ∈ index.declarations ∧ Text.contains file.content marker = true := by
    intro hfile
    obtain ⟨hmem, hholds⟩ := List.mem_filter.mp hfile
    rw [Bool.and_eq_true] at hholds
    exact ⟨hmem, hholds.1⟩
  cases base with
  | none => exact hnamed h
  | some base =>
    dsimp only [contractSearch] at h
    split_ifs at h
    · exact hnamed h
    · obtain ⟨hmem, hholds⟩ := List.mem_filter.mp (mem_of_searched h).2
      rw [Bool.and_eq_true] at hholds
      exact ⟨hmem, hholds.2⟩

lemma exists_reported {report : Except LinkError SourceFile}
    (h : (reportedPath? report).isSome = true) : ∃ file, report = .ok file := by
  cases report with
  | error e => cases h
  | ok file => exact ⟨file, rfl⟩

/-! ### The records of a link -/

/-- The services that the descriptors of an index name. -/
def namedServices (index : SourceIndex) : List ServiceDescriptor :=
  (dedup [] index.descriptors).filterMap fun file => (ServiceDescriptor.parse file).toOption

/-- The diagnostics of the descriptors that name no service. -/
def refusals (index : SourceIndex) : List Diagnostic :=
  (dedup [] index.descriptors).flatMap fun file => failure file.path (ServiceDescriptor.parse file)

lemma value_link_eq_reportOf (index : SourceIndex) (c : Config) : (link index c).value =
    reportOf ((dedup [] index.descriptors).map fun file => (linkFile index c file).value) := by
  rw [← Logged.value_traverse]
  rfl

lemma value_link (index : SourceIndex) (c : Config) :
    (link index c).value =
      { root := ""
        records := (namedServices index).map (recordUnder index c.contractMarker c.ambiguity)
        diagnostics := refusals index } := by
  rw [value_link_eq_reportOf, reportOf, namedServices, refusals]
  congr 1
  · rw [List.filterMap_map, List.map_filterMap]
    congr 1
    funext file
    rw [Function.comp_apply, linkFile]
    cases ServiceDescriptor.parse file with
    | ok d => exact congrArg some (linkDescriptor_value index c d)
    | error e => rfl
  · rw [List.filterMap_map, List.filterMap_eq_flatMap_toList]
    congr 1
    funext file
    rw [Function.comp_apply, linkFile]
    cases ServiceDescriptor.parse file <;> rfl

end ServiceLinker.Proofs
