import ServiceLinker.Proofs.LinkOutcomes

/-!
# Independence of the order of declarations

Under the strict policy a search that gives a file has no other hit. The order in which declarations
are indexed therefore shows in one place only: in the order in which an ambiguous search lists its
candidates.
-/

namespace ServiceLinker.Proofs

/-! ### Reports over permuted files -/

/-- The reports are equal, or list the same candidates in different orders. -/
inductive SameReport : Except LinkError SourceFile → Except LinkError SourceFile → Prop
  | same (report : Except LinkError SourceFile) : SameReport report report
  | listed (name label : String) {candidates candidates' : List String}
      (h : candidates.Perm candidates') :
      SameReport (.error (.ambiguousMatch name label candidates))
        (.error (.ambiguousMatch name label candidates'))

lemma reported_perm {files files' : List SourceFile} (h : files.Perm files')
    (label name : String) (missing : LinkError) :
    SameReport (reported .error label name missing files)
      (reported .error label name missing files') := by
  rcases files with _ | ⟨file, _ | ⟨other, files⟩⟩
  · rw [h.nil_eq]
    exact .same _
  · rw [List.singleton_perm.mp h]
    exact .same _
  · have hmany : 2 ≤ (file :: other :: files).length := Nat.le_add_left 2 _
    rw [reported_of_two_le hmany, reported_of_two_le (h.length_eq ▸ hmany)]
    exact .listed name label (h.map _)

lemma searched_perm {files files' : List SourceFile} (h : files.Perm files')
    (name : String) : (searched name files).Perm (searched name files') := by
  unfold searched
  split_ifs
  · exact h
  · exact .nil

lemma SameReport.toOption_eq {report report' : Except LinkError SourceFile}
    (h : SameReport report report') : report.toOption = report'.toOption := by
  cases h <;> rfl

/-! ### Records over permuted declarations -/

/-- The diagnostics are equal, or list the same candidates in different orders. -/
structure SameDiagnostic (x x' : Diagnostic) : Prop where
  kind_eq : x.kind = x'.kind
  path_eq : x.path = x'.path
  message : x.message = x'.message ∨ ∃ name label candidates candidates',
    x.kind = .ambiguousMatch ∧ List.Perm candidates candidates' ∧
      x.message = (LinkError.ambiguousMatch name label candidates).message ∧
      x'.message = (LinkError.ambiguousMatch name label candidates').message

/-- The records are equal up to the order of candidates in their diagnostics. -/
structure SameRecord (r r' : LinkedService) : Prop where
  serviceName : r.serviceName = r'.serviceName
  qualifiedName : r.qualifiedName = r'.qualifiedName
  descriptorPath : r.descriptorPath = r'.descriptorPath
  implementationPath : r.implementationPath = r'.implementationPath
  interfacePath : r.interfacePath = r'.interfacePath
  interfaceSource : r.interfaceSource = r'.interfaceSource
  diagnostics : List.Forall₂ SameDiagnostic r.diagnostics r'.diagnostics

lemma SameReport.failure {report report' : Except LinkError SourceFile}
    (h : SameReport report report') (path : String) :
    List.Forall₂ SameDiagnostic (failure path report) (failure path report') := by
  cases h with
  | same =>
    rw [List.forall₂_same]
    exact fun x _ => ⟨rfl, rfl, .inl rfl⟩
  | listed name label hperm =>
    exact .cons ⟨rfl, rfl, .inr ⟨name, label, _, _, rfl, hperm, rfl, rfl⟩⟩ .nil

lemma sameRecord_recordOf {implementation implementation' interface interface' :
    Except LinkError SourceFile} (hclass : SameReport implementation implementation')
    (hcontract : SameReport interface interface') (d : ServiceDescriptor)
    (source : InterfaceSource) :
    SameRecord (recordOf d implementation interface source)
      (recordOf d implementation' interface' source) where
  serviceName := rfl
  qualifiedName := rfl
  descriptorPath := rfl
  implementationPath := congrArg (Option.map _) hclass.toOption_eq
  interfacePath := congrArg (Option.map _) hcontract.toOption_eq
  interfaceSource := congrArg (Option.map _) hcontract.toOption_eq
  diagnostics := List.rel_append (hclass.failure d.path) (hcontract.failure d.path)

section

variable {index index' : SourceIndex} (h : index.declarations.Perm index'.declarations)

include h

lemma declaration?_perm (hpaths : (index.declarations.map (·.path)).Nodup) (path : String) :
    index.declaration? path = index'.declaration? path := by
  unfold SourceIndex.declaration?
  cases hfind : index.declarations.find? (·.path = path) with
  | none =>
    rw [List.find?_eq_none] at hfind
    symm
    rw [List.find?_eq_none]
    exact fun file hfile => hfind file (h.mem_iff.mpr hfile)
  | some file =>
    have hpath : file.path = path := by
      simpa using List.find?_some hfind
    have hpaths' : (index'.declarations.map (·.path)).Nodup := (h.map _).nodup_iff.mp hpaths
    have hmem : file ∈ index'.declarations := h.mem_iff.mp (List.mem_of_find?_eq_some hfind)
    rw [← hpath, find?_path hpaths' hmem]

lemma classReport_perm (service : String) :
    SameReport (classReport index .error service) (classReport index' .error service) :=
  reported_perm (searched_perm (h.filter _) service) _ _ _

lemma contractSearch_perm (service marker : String) (base : Option String) :
    let search := contractSearch index service marker base
    let search' := contractSearch index' service marker base
    SameReport (search.report .error service) (search'.report .error service) ∧
      search.source = search'.source := by
  cases base with
  | none => exact ⟨reported_perm (h.filter _) _ _ _, rfl⟩
  | some base =>
    have hlisted : (searched base (baseContracts index base marker)).Perm
        (searched base (baseContracts index' base marker)) := searched_perm (h.filter _) base
    dsimp only [contractSearch]
    by_cases hnil : searched base (baseContracts index base marker) = []
    · rw [hnil] at hlisted
      rw [if_pos hnil, if_pos hlisted.nil_eq.symm]
      exact ⟨reported_perm (h.filter _) _ _ _, rfl⟩
    · have hnil' : searched base (baseContracts index' base marker) ≠ [] := by
        intro hnil'
        rw [hnil'] at hlisted
        exact hnil hlisted.eq_nil
      rw [if_neg hnil, if_neg hnil']
      exact ⟨reported_perm hlisted _ _ _, rfl⟩

/-- The records of a descriptor over permuted declarations. -/
lemma recordUnder_perm (hpaths : (index.declarations.map (·.path)).Nodup) (marker : String)
    (d : ServiceDescriptor) :
    SameRecord (recordUnder index marker .error d) (recordUnder index' marker .error d) := by
  have hclass := classReport_perm h d.simpleName
  have hlookup : index.declaration? = index'.declaration? :=
    funext fun path => declaration?_perm h hpaths path
  have hbase : listedBase index d.simpleName
        (reportedPath? (classReport index .error d.simpleName)) =
      listedBase index' d.simpleName
        (reportedPath? (classReport index' .error d.simpleName)) := by
    unfold listedBase reportedPath?
    rw [hclass.toOption_eq, hlookup]
  unfold recordUnder contractSearchOf
  dsimp only
  rw [hbase]
  obtain ⟨hcontract, hsource⟩ := contractSearch_perm h d.simpleName marker
    (listedBase index' d.simpleName (reportedPath? (classReport index' .error d.simpleName)))
  rw [hsource]
  exact sameRecord_recordOf hclass hcontract d _

end

/-- Under the strict policy the order of the declarations does not matter, but for the order in
which ambiguous candidates are listed. -/
theorem link_strict_order_independent {declarations declarations' : List SourceFile}
    (hpaths : (declarations.map (·.path)).Nodup) (hperm : declarations.Perm declarations')
    (descriptors : List SourceFile) {c : Config} (hc : c.ambiguity = .error) :
    let report := (link ⟨declarations, descriptors⟩ c).value
    let report' := (link ⟨declarations', descriptors⟩ c).value
    List.Forall₂ SameRecord report.records report'.records ∧
      report.diagnostics = report'.diagnostics := by
  dsimp only
  rw [value_link, value_link, hc]
  refine ⟨?_, rfl⟩
  rw [List.forall₂_map_left_iff]
  refine List.forall₂_map_right_iff.mpr (List.forall₂_same.mpr ?_)
  intro d _
  exact recordUnder_perm hperm hpaths c.contractMarker d

/-- Two classes of one name, and the contract of the service. -/
def twoClasses : List SourceFile :=
  [⟨"a/A.cs", "A", "class A : IA"⟩, ⟨"b/A.cs", "A", "class A "⟩, ⟨"IA.cs", "IA", "interface IA M"⟩]

/-- The candidates are listed in the order of the declarations, and all else is equal. -/
theorem link_strict_order_independent_twoClasses :
    let descriptors : List SourceFile := [⟨"A.svc", "A", "Service=\x22A\x22"⟩]
    let report := (link ⟨twoClasses, descriptors⟩ ⟨"svc", "cs", "M", .error⟩).value
    let report' := (link ⟨twoClasses.reverse, descriptors⟩ ⟨"svc", "cs", "M", .error⟩).value
    (twoClasses.map (·.path)).Nodup ∧ twoClasses.Perm twoClasses.reverse ∧
      report.records ≠ report'.records ∧
      List.Forall₂ SameRecord report.records report'.records ∧
      report.diagnostics = report'.diagnostics := by
  intro descriptors report report'
  have hpaths : (twoClasses.map (·.path)).Nodup := by decide
  have hperm : twoClasses.Perm twoClasses.reverse := (List.reverse_perm twoClasses).symm
  have hne : report.records ≠ report'.records := by decide +kernel
  exact ⟨hpaths, hperm, hne, link_strict_order_independent hpaths hperm descriptors rfl⟩

end ServiceLinker.Proofs
