import ServiceLinker.Proofs.LinkOutcomes

/-!
# The two policies compared

The strict policy only refuses: where no search is ambiguous it makes the record that the lenient
policy makes, and where one is, the lenient policy takes the first of the candidates that the strict
one lists. A search for the class that is refused changes the search for the contract, so that the
second search is compared only behind equal first ones.
-/

namespace ServiceLinker.Proofs

/-! ### Reports -/

/-- The report says that several files satisfied the search. -/
def AmbiguousReport (report : Except LinkError SourceFile) : Prop :=
  ∃ e, report = .error e ∧ e.kind = .ambiguousMatch

section

variable (label name : String) (missing : LinkError) (files : List SourceFile)

lemma reported_strict_or : reported .error label name missing files =
    reported .firstMatch label name missing files ∨
      ∃ first rest, reported .error label name missing files =
          .error (.ambiguousMatch name label (first.path :: rest)) ∧
        reported .firstMatch label name missing files = .ok first := by
  rcases files with _ | ⟨file, _ | ⟨other, files⟩⟩
  · exact .inl rfl
  · exact .inl rfl
  · exact .inr ⟨file, (other :: files).map (·.path), rfl, rfl⟩

variable {label name missing files}

lemma not_ambiguousReport_lenient (hmissing : missing.kind ≠ .ambiguousMatch) :
    ¬AmbiguousReport (reported .firstMatch label name missing files) := by
  rintro ⟨e, he, hkind⟩
  cases files with
  | nil =>
    cases he
    exact hmissing hkind
  | cons file files => cases he

lemma eq_lenient_of_not_ambiguousReport
    (h : ¬AmbiguousReport (reported .error label name missing files)) :
    reported .error label name missing files =
      reported .firstMatch label name missing files := by
  rcases reported_strict_or label name missing files with heq | ⟨first, rest, hstrict, -⟩
  · exact heq
  · exact absurd ⟨_, hstrict, rfl⟩ h

/-- The lenient policy takes the first of the listed candidates. -/
lemma lenient_of_ambiguous {name' label' : String} {candidates : List String}
    (hmissing : missing.kind ≠ .ambiguousMatch)
    (h : reported .error label name missing files =
      .error (.ambiguousMatch name' label' candidates)) :
    ∃ first rest, candidates = first.path :: rest ∧
      reported .firstMatch label name missing files = .ok first := by
  rcases reported_strict_or label name missing files with heq | ⟨first, rest, hstrict, hlenient⟩
  · rw [heq] at h
    exact absurd ⟨_, h, rfl⟩ (not_ambiguousReport_lenient hmissing)
  · rw [hstrict, Except.error.injEq, LinkError.ambiguousMatch.injEq] at h
    exact ⟨first, rest, h.2.2.symm, hlenient⟩

end

/-! ### Records -/

/-- The record notes that several files satisfied a search. -/
def IsAmbiguous (r : LinkedService) : Prop := ∃ x ∈ r.diagnostics, x.kind = .ambiguousMatch

lemma exists_ambiguous_failure_iff (path : String) (report : Except LinkError SourceFile) :
    (∃ x ∈ failure path report, x.kind = .ambiguousMatch) ↔ AmbiguousReport report := by
  cases report with
  | ok file =>
    constructor
    · rintro ⟨x, hx, -⟩
      cases hx
    · rintro ⟨e, he, -⟩
      cases he
  | error e =>
    constructor
    · rintro ⟨x, hx, hkind⟩
      rw [List.mem_singleton.mp hx] at hkind
      exact ⟨e, rfl, hkind⟩
    · rintro ⟨e', he, hkind⟩
      cases he
      exact ⟨_, List.mem_singleton_self _, hkind⟩

lemma isAmbiguous_recordOf_iff (d : ServiceDescriptor)
    (implementation interface : Except LinkError SourceFile) (source : InterfaceSource) :
    IsAmbiguous (recordOf d implementation interface source) ↔
      AmbiguousReport implementation ∨ AmbiguousReport interface := by
  rw [← exists_ambiguous_failure_iff d.path, ← exists_ambiguous_failure_iff d.path]
  unfold IsAmbiguous recordOf
  simp only [List.mem_append, or_and_right, exists_or]

/-- The strict record notes an ambiguity with its candidates, of which the first is chosen where
the strict record chooses none. -/
structure RefusesFirst (strict : LinkedService) (refused chosen : Option String)
    (name label : String) (candidates : List String) : Prop where
  refused_eq : refused = none
  noted : .ofError strict.descriptorPath (.ambiguousMatch name label candidates) ∈
    strict.diagnostics
  chosen_eq : ∃ first rest, candidates = first :: rest ∧ chosen = some first

/-- The strict record of a descriptor differs from the lenient one only by what it refuses. -/
structure OnlyRefuses (index : SourceIndex) (marker : String) (strict lenient : LinkedService) :
    Prop where
  serviceName : strict.serviceName = lenient.serviceName
  qualifiedName : strict.qualifiedName = lenient.qualifiedName
  descriptorPath : strict.descriptorPath = lenient.descriptorPath
  eq_iff : strict = lenient ↔ ¬IsAmbiguous strict
  eq_of_resolved : strict.isResolved = true → strict = lenient
  implementation : ∀ name label candidates,
    (Declarations.resolveImplementation ⟨index.declarations, .error⟩ strict.serviceName).value =
        .error (.ambiguousMatch name label candidates) →
      RefusesFirst strict strict.implementationPath lenient.implementationPath name label candidates
  interface : (∀ name label candidates,
      (Declarations.resolveImplementation ⟨index.declarations, .error⟩ strict.serviceName).value ≠
        .error (.ambiguousMatch name label candidates)) →
    ∀ name label candidates,
      (Declarations.resolveInterface ⟨index.declarations, .error⟩ strict.serviceName
          (strict.implementationPath.bind index.declaration?) marker).value =
        .error (.ambiguousMatch name label candidates) →
      RefusesFirst strict strict.interfacePath lenient.interfacePath name label candidates

lemma map_eq_error {α : Type} {report : Except LinkError SourceFile} {f : SourceFile → α}
    {e : LinkError} (h : report.map f = .error e) : report = .error e := by
  cases report with
  | error e' =>
    cases h
    rfl
  | ok file => cases h

lemma refusesFirst_of_reports {strict : LinkedService} {refused chosen : Except LinkError SourceFile}
    {name label : String} {candidates : List String}
    (hnoted : failure strict.descriptorPath refused ⊆ strict.diagnostics)
    (hrefused : refused = .error (.ambiguousMatch name label candidates))
    (hchosen : ∃ first rest, candidates = SourceFile.path first :: rest ∧ chosen = .ok first) :
    RefusesFirst strict (reportedPath? refused) (reportedPath? chosen) name label candidates := by
  obtain ⟨first, rest, hcandidates, hfirst⟩ := hchosen
  refine ⟨?_, ?_, first.path, rest, hcandidates, ?_⟩
  · rw [hrefused]
    rfl
  · apply hnoted
    rw [hrefused]
    exact List.mem_singleton_self _
  · rw [hfirst]
    rfl

section

variable (index : SourceIndex) (marker : String) (d : ServiceDescriptor)

lemma kind_implementationNotFound :
    LinkError.kind (.implementationNotFound d.simpleName) ≠ .ambiguousMatch := by
  rintro ⟨⟩

lemma kind_interfaceNotFound :
    LinkError.kind (.interfaceNotFound d.simpleName) ≠ .ambiguousMatch := by
  rintro ⟨⟩

lemma not_isAmbiguous_lenient : ¬IsAmbiguous (recordUnder index marker .firstMatch d) := by
  unfold recordUnder
  dsimp only
  rw [isAmbiguous_recordOf_iff, not_or]
  exact ⟨not_ambiguousReport_lenient (kind_implementationNotFound d),
    not_ambiguousReport_lenient (kind_interfaceNotFound d)⟩

lemma recordUnder_eq_of_not_isAmbiguous (h : ¬IsAmbiguous (recordUnder index marker .error d)) :
    recordUnder index marker .error d = recordUnder index marker .firstMatch d := by
  unfold recordUnder at h ⊢
  dsimp only at h ⊢
  rw [isAmbiguous_recordOf_iff, not_or] at h
  have hclass : classReport index .error d.simpleName =
      classReport index .firstMatch d.simpleName := eq_lenient_of_not_ambiguousReport h.1
  rw [hclass] at h ⊢
  have hcontract := eq_lenient_of_not_ambiguousReport h.2
  exact congrArg (recordOf d _ · _) hcontract

lemma not_isAmbiguous_of_resolved (policy : AmbiguityPolicy)
    (h : (recordUnder index marker policy d).isResolved = true) :
    ¬IsAmbiguous (recordUnder index marker policy d) := by
  rw [LinkedService.isResolved, Bool.and_eq_true] at h
  obtain ⟨implementation, himplementation⟩ := exists_reported h.1
  obtain ⟨interface, hinterface⟩ := exists_reported h.2
  unfold recordUnder
  dsimp only
  rw [isAmbiguous_recordOf_iff, not_or]
  constructor
  · rintro ⟨e, he, -⟩
    cases himplementation.symm.trans he
  · rintro ⟨e, he, -⟩
    cases hinterface.symm.trans he

/-- The two records of a descriptor. -/
lemma onlyRefuses_recordUnder : OnlyRefuses index marker (recordUnder index marker .error d)
    (recordUnder index marker .firstMatch d) where
  serviceName := rfl
  qualifiedName := rfl
  descriptorPath := rfl
  eq_iff := by
    refine ⟨?_, recordUnder_eq_of_not_isAmbiguous index marker d⟩
    intro heq
    rw [heq]
    exact not_isAmbiguous_lenient index marker d
  eq_of_resolved := by
    intro hresolved
    apply recordUnder_eq_of_not_isAmbiguous
    exact not_isAmbiguous_of_resolved index marker d .error hresolved
  implementation := by
    intro name label candidates hsearch
    rw [resolveImplementation_searched] at hsearch
    have hstrict := map_eq_error hsearch
    exact refusesFirst_of_reports (List.subset_append_left _ _) hstrict
      (lenient_of_ambiguous (kind_implementationNotFound d) hstrict)
  interface := by
    intro hclass name label candidates hsearch
    have hsame : classReport index .error d.simpleName =
        classReport index .firstMatch d.simpleName := by
      apply eq_lenient_of_not_ambiguousReport
      rintro ⟨e, he, hkind⟩
      cases e <;> cases hkind
      apply hclass
      rw [resolveImplementation_searched]
      exact congrArg (Except.map _) he
    rw [resolveInterface_searched] at hsearch
    have hstrict := map_eq_error hsearch
    -- the lenient record searches for the contract as the strict one does
    have hpath : (recordUnder index marker .firstMatch d).interfacePath =
        reportedPath? ((contractSearchOf index marker d
          (classReport index .error d.simpleName)).report .firstMatch d.simpleName) := by
      rw [hsame]
      rfl
    rw [hpath]
    exact refusesFirst_of_reports (List.subset_append_right _ _) hstrict
      (lenient_of_ambiguous (kind_interfaceNotFound d) hstrict)

end

/-- The strict policy only refuses, it never chooses differently. -/
theorem link_strict_only_refuses (index : SourceIndex) (c : Config) :
    let strict := (link index { c with ambiguity := .error }).value
    let lenient := (link index { c with ambiguity := .firstMatch }).value
    strict.diagnostics = lenient.diagnostics ∧
      List.Forall₂ (OnlyRefuses index c.contractMarker) strict.records lenient.records := by
  dsimp only
  rw [value_link, value_link]
  refine ⟨rfl, ?_⟩
  rw [List.forall₂_map_left_iff, List.forall₂_map_right_iff, List.forall₂_same]
  exact fun d _ => onlyRefuses_recordUnder index c.contractMarker d

end ServiceLinker.Proofs
