import ServiceLinker.Proofs.LinkOutcomes

/-!
# Declarations that come later

Where the first file counts, files that are indexed behind the others never break a link. They can
change one thing only about a linked service: a base interface that no file declared may appear
among them, and then it takes the place of a contract that was chosen by its name.
-/

namespace ServiceLinker.Proofs

open SourceIndex (dedup)

/-! ### First files -/

lemma reported_lenient_eq_ok_iff {label name : String} {missing : LinkError}
    {files : List SourceFile} {file : SourceFile} :
    reported .firstMatch label name missing files = .ok file ↔ files.head? = some file := by
  cases files with
  | nil => simp [reported, pick]
  | cons first rest => simp [reported, pick]

lemma reported_append {label name : String} {missing : LinkError} {files : List SourceFile}
    {file : SourceFile} (h : reported .firstMatch label name missing files = .ok file)
    (more : List SourceFile) :
    reported .firstMatch label name missing (files ++ more) = .ok file := by
  rw [reported_lenient_eq_ok_iff] at h ⊢
  rw [List.head?_append, h]
  rfl

lemma exists_reported_lenient {files : List SourceFile} (h : files ≠ []) (label name : String)
    (missing : LinkError) :
    ∃ file ∈ files, reported .firstMatch label name missing files = .ok file := by
  obtain ⟨file, rest, rfl⟩ := List.exists_cons_of_ne_nil h
  exact ⟨file, List.mem_cons_self, rfl⟩

lemma searched_append (name : String) (files more : List SourceFile) :
    searched name (files ++ more) = searched name files ++ searched name more := by
  unfold searched
  split_ifs
  · rfl
  · rfl

/-! ### Searches over more files -/

section

variable (earlier later descriptors : List SourceFile)

lemma classReport_append {service : String} {file : SourceFile}
    (h : classReport ⟨earlier, descriptors⟩ .firstMatch service = .ok file) :
    classReport ⟨earlier ++ later, descriptors⟩ .firstMatch service = .ok file := by
  unfold classReport implementers at h ⊢
  dsimp only at h ⊢
  rw [List.filter_append, searched_append]
  exact reported_append h _

lemma listedBase_append (service : String) {file : SourceFile} (h : file ∈ earlier) :
    listedBase ⟨earlier ++ later, descriptors⟩ service (some file.path) =
      listedBase ⟨earlier, descriptors⟩ service (some file.path) := by
  have hsome : (earlier.find? fun f => f.path = file.path).isSome = true := by
    rw [List.find?_isSome]
    exact ⟨file, h, decide_eq_true rfl⟩
  obtain ⟨found, hfound⟩ := Option.isSome_iff_exists.mp hsome
  have hsame : SourceIndex.declaration? ⟨earlier ++ later, descriptors⟩ file.path =
      SourceIndex.declaration? ⟨earlier, descriptors⟩ file.path := by
    unfold SourceIndex.declaration?
    rw [List.find?_append, hfound]
    rfl
  unfold listedBase
  rw [Option.bind_some, Option.bind_some, hsame]

/-- The search for a contract over more files looks at more files of the same set, or turns from
the contracts named after the service to interfaces that only the later files declare. -/
lemma contractSearch_append (service marker : String) (base : Option String) :
    let search := contractSearch ⟨earlier, descriptors⟩ service marker base
    let search' := contractSearch ⟨earlier ++ later, descriptors⟩ service marker base
    (∃ more, search' = { search with files := search.files ++ more }) ∨
      search.source = .contractFallback ∧ search'.source = .inheritance ∧ search'.files ≠ [] ∧
        ∀ file ∈ search'.files, file ∈ later := by
  have hnamed : namedContracts ⟨earlier ++ later, descriptors⟩ service marker =
      namedContracts ⟨earlier, descriptors⟩ service marker ++
        namedContracts ⟨later, descriptors⟩ service marker := List.filter_append ..
  cases base with
  | none =>
    dsimp only [contractSearch]
    rw [hnamed]
    exact .inl ⟨_, rfl⟩
  | some base =>
    have hlisted : searched base (baseContracts ⟨earlier ++ later, descriptors⟩ base marker) =
        searched base (baseContracts ⟨earlier, descriptors⟩ base marker) ++
          searched base (baseContracts ⟨later, descriptors⟩ base marker) := by
      rw [← searched_append]
      exact congrArg _ (List.filter_append ..)
    dsimp only [contractSearch]
    rw [hlisted, hnamed]
    by_cases hearlier : searched base (baseContracts ⟨earlier, descriptors⟩ base marker) = []
    · rw [if_pos hearlier, hearlier, List.nil_append]
      by_cases hlater : searched base (baseContracts ⟨later, descriptors⟩ base marker) = []
      · rw [if_pos hlater]
        exact .inl ⟨_, rfl⟩
      · rw [if_neg hlater]
        refine .inr ⟨rfl, rfl, hlater, ?_⟩
        intro file hfile
        exact (List.mem_filter.mp (mem_of_searched hfile).2).1
    · rw [if_neg hearlier, if_neg fun h => hearlier (List.append_eq_nil_iff.mp h).1]
      exact .inl ⟨_, rfl⟩

end

/-- A service with a contract named after it gets a contract, whatever its class lists. -/
lemma exists_contract_of_named {index : SourceIndex} {service marker : String}
    (h : namedContracts index service marker ≠ []) (base : Option String) :
    ∃ file, (contractSearch index service marker base).report .firstMatch service = .ok file := by
  have hfiles : (contractSearch index service marker base).files ≠ [] := by
    cases base with
    | none => exact h
    | some base =>
      dsimp only [contractSearch]
      split_ifs with hlisted
      · exact h
      · exact hlisted
  obtain ⟨file, -, hfile⟩ := exists_reported_lenient hfiles _ _ _
  exact ⟨file, hfile⟩

/-! ### Records over more files -/

/-- What files in `later` leave of the record of a descriptor. -/
structure Survives (later : List SourceFile) (r r' : LinkedService) : Prop where
  implementation : ∀ path, r.implementationPath = some path → r'.implementationPath = some path
  interface : r.interfacePath.isSome = true → r'.interfacePath.isSome = true
  resolved : r.isResolved = true → r'.isResolved = true
  inherited : ∀ path, r.interfacePath = some path → r.interfaceSource = some .inheritance →
    r'.interfacePath = some path ∧ r'.interfaceSource = some .inheritance
  named : ∀ path, r.implementationPath.isSome = true → r.interfacePath = some path →
    r.interfaceSource = some .contractFallback →
      r'.interfacePath = some path ∧ r'.interfaceSource = some .contractFallback ∨
        r'.interfaceSource = some .inheritance ∧
          ∃ file ∈ later, r'.interfacePath = some file.path

section

variable (earlier later descriptors : List SourceFile) (marker : String) (d : ServiceDescriptor)

/-- The contract of a service whose class is found among the earlier files. -/
lemma contract_append {implementation contract : SourceFile}
    (himplementation : classReport ⟨earlier, descriptors⟩ .firstMatch d.simpleName =
      .ok implementation)
    (hcontract : (contractSearchOf ⟨earlier, descriptors⟩ marker d (.ok implementation)).report
      .firstMatch d.simpleName = .ok contract) :
    let search := contractSearchOf ⟨earlier, descriptors⟩ marker d (.ok implementation)
    let search' := contractSearchOf ⟨earlier ++ later, descriptors⟩ marker d (.ok implementation)
    search'.report .firstMatch d.simpleName = .ok contract ∧ search'.source = search.source ∨
      search.source = .contractFallback ∧ search'.source = .inheritance ∧
        ∃ file ∈ later, search'.report .firstMatch d.simpleName = .ok file := by
  have hmem : implementation ∈ earlier :=
    (List.mem_filter.mp (mem_of_searched (mem_of_reported himplementation)).2).1
  have hbase : listedBase ⟨earlier ++ later, descriptors⟩ d.simpleName (some implementation.path) =
      listedBase ⟨earlier, descriptors⟩ d.simpleName (some implementation.path) :=
    listedBase_append earlier later descriptors d.simpleName hmem
  intro search search'
  have hsearch' : search' = contractSearch ⟨earlier ++ later, descriptors⟩ d.simpleName marker
      (listedBase ⟨earlier, descriptors⟩ d.simpleName (some implementation.path)) := by
    rw [← hbase]
    rfl
  rcases contractSearch_append earlier later descriptors d.simpleName marker
    (listedBase ⟨earlier, descriptors⟩ d.simpleName (some implementation.path)) with
    ⟨more, hmore⟩ | ⟨hsource, hsource', hfiles, hlater⟩
  · rw [hsearch', hmore]
    exact .inl ⟨reported_append hcontract more, rfl⟩
  · rw [← hsearch'] at hsource' hfiles hlater
    obtain ⟨file, hfile, hreport⟩ := exists_reported_lenient hfiles _ _ _
    exact .inr ⟨hsource, hsource', file, hlater file hfile, hreport⟩

lemma survives_of_class {implementation : SourceFile}
    (h : classReport ⟨earlier, descriptors⟩ .firstMatch d.simpleName = .ok implementation) :
    Survives later (recordUnder ⟨earlier, descriptors⟩ marker .firstMatch d)
      (recordUnder ⟨earlier ++ later, descriptors⟩ marker .firstMatch d) := by
  unfold recordUnder
  dsimp only
  rw [h, classReport_append earlier later descriptors h]
  cases hcontract : (contractSearchOf ⟨earlier, descriptors⟩ marker d (.ok implementation)).report
    .firstMatch d.simpleName with
  | error e =>
    exact ⟨fun _ hpath => hpath, nofun, nofun, nofun, nofun⟩
  | ok contract =>
    rcases contract_append earlier later descriptors marker d h hcontract with
      ⟨hreport, hsource⟩ | ⟨hsource, hsource', file, hfile, hreport⟩
    · rw [hreport, hsource]
      exact ⟨fun _ hpath => hpath, id, id, fun _ hpath hs => ⟨hpath, hs⟩,
        fun _ _ hpath hs => .inl ⟨hpath, hs⟩⟩
    · rw [hreport, hsource, hsource']
      refine ⟨fun _ hpath => hpath, fun _ => rfl, fun _ => rfl, ?_, ?_⟩
      · intro _ _ hinherited
        cases hinherited
      · intro _ _ _ _
        exact .inr ⟨rfl, file, hfile, rfl⟩

/-- A service that has a contract but no class has one that is named after it. -/
lemma exists_contract_of_no_class {e : LinkError} {contract : SourceFile}
    (h : (contractSearchOf ⟨earlier, descriptors⟩ marker d (.error e)).report .firstMatch
      d.simpleName = .ok contract) (implementation : Except LinkError SourceFile) :
    ∃ file, (contractSearchOf ⟨earlier ++ later, descriptors⟩ marker d implementation).report
      .firstMatch d.simpleName = .ok file := by
  have hmem : contract ∈ namedContracts ⟨earlier, descriptors⟩ d.simpleName marker :=
    mem_of_reported h
  obtain ⟨hdeclared, hnamed⟩ := List.mem_filter.mp hmem
  apply exists_contract_of_named
  apply List.ne_nil_of_mem (a := contract)
  exact List.mem_filter.mpr ⟨List.mem_append_left later hdeclared, hnamed⟩

lemma survives_of_no_class {e : LinkError}
    (h : classReport ⟨earlier, descriptors⟩ .firstMatch d.simpleName = .error e) :
    Survives later (recordUnder ⟨earlier, descriptors⟩ marker .firstMatch d)
      (recordUnder ⟨earlier ++ later, descriptors⟩ marker .firstMatch d) := by
  have hsource : (contractSearchOf ⟨earlier, descriptors⟩ marker d (.error e)).source =
      .contractFallback := rfl
  unfold recordUnder
  dsimp only
  rw [h, hsource]
  refine ⟨nofun, ?_, nofun, ?_, nofun⟩
  · intro hpath
    obtain ⟨contract, hcontract⟩ := exists_reported hpath
    obtain ⟨file, hfile⟩ := exists_contract_of_no_class earlier later descriptors marker d hcontract
      (classReport ⟨earlier ++ later, descriptors⟩ .firstMatch d.simpleName)
    rw [hfile]
    rfl
  · intro path hpath hinherited
    obtain ⟨contract, hcontract⟩ := exists_reported (Option.isSome_of_eq_some hpath)
    rw [hcontract] at hinherited
    cases hinherited

lemma survives_recordUnder :
    Survives later (recordUnder ⟨earlier, descriptors⟩ marker .firstMatch d)
      (recordUnder ⟨earlier ++ later, descriptors⟩ marker .firstMatch d) := by
  cases h : classReport ⟨earlier, descriptors⟩ .firstMatch d.simpleName with
  | ok implementation => exact survives_of_class earlier later descriptors marker d h
  | error e => exact survives_of_no_class earlier later descriptors marker d h

end

/-! ### Links over more files -/

lemma dedup_subset (seen : List String) (files : List SourceFile) : dedup seen files ⊆ files := by
  induction files generalizing seen with
  | nil => exact fun _ h => h
  | cons file files ih =>
    unfold dedup
    split_ifs
    · exact List.subset_cons_of_subset file (ih seen)
    · exact List.cons_subset_cons file (ih (file.path :: seen))

lemma exists_dedup_append (seen : List String) (files more : List SourceFile) :
    ∃ rest, dedup seen (files ++ more) = dedup seen files ++ rest ∧ rest ⊆ more := by
  induction files generalizing seen with
  | nil => exact ⟨dedup seen more, rfl, dedup_subset seen more⟩
  | cons file files ih =>
    rw [List.cons_append, dedup, dedup]
    split_ifs
    · exact ih seen
    · obtain ⟨rest, hrest, hsubset⟩ := ih (file.path :: seen)
      exact ⟨rest, by rw [hrest, List.cons_append], hsubset⟩

lemma Survives.mono {later more : List SourceFile} (h : later ⊆ more) {r r' : LinkedService}
    (hr : Survives later r r') : Survives more r r' where
  implementation := hr.implementation
  interface := hr.interface
  resolved := hr.resolved
  inherited := hr.inherited
  named path himplementation hpath hsource := by
    refine (hr.named path himplementation hpath hsource).imp_right ?_
    rintro ⟨hinherited, file, hfile, hfound⟩
    exact ⟨hinherited, file, h hfile, hfound⟩

/-- Under the lenient policy files that are indexed behind the others never break a link. -/
theorem link_lenient_survives (earlier later descriptors : List SourceFile) (c : Config) :
    let index := SourceIndex.ofFiles earlier descriptors
    let index' := SourceIndex.ofFiles (earlier ++ later) descriptors
    let lenient := { c with ambiguity := .firstMatch }
    (∀ d, Survives later (linkDescriptor index lenient d).value
      (linkDescriptor index' lenient d).value) ∧
    List.Forall₂ (Survives later) (link index lenient).value.records
      (link index' lenient).value.records := by
  intro index index' lenient
  obtain ⟨rest, hrest, hsubset⟩ := exists_dedup_append [] earlier later
  have hindex' : index' = ⟨index.declarations ++ rest, index.descriptors⟩ := by
    change SourceIndex.mk _ _ = _
    rw [hrest]
    rfl
  have hrecord : ∀ d, Survives later (recordUnder index c.contractMarker .firstMatch d)
      (recordUnder index' c.contractMarker .firstMatch d) := by
    intro d
    rw [hindex']
    exact (survives_recordUnder index.declarations rest index.descriptors _ d).mono hsubset
  refine ⟨?_, ?_⟩
  · intro d
    rw [linkDescriptor_value, linkDescriptor_value]
    exact hrecord d
  · rw [value_link, value_link, List.forall₂_map_left_iff, List.forall₂_map_right_iff]
    have hservices : namedServices index' = namedServices index := rfl
    rw [hservices, List.forall₂_same]
    exact fun d _ => hrecord d

/-- A base interface that appears later takes the place of the contract named after the service. -/
example :
    let files : List SourceFile := [⟨"A.cs", "A", "class A : IB"⟩, ⟨"IA.cs", "IA", "M"⟩]
    let later : List SourceFile := [⟨"IB.cs", "IB", "interface IB M"⟩]
    let contract := fun declarations => (linkDescriptor (.ofFiles declarations [])
      ⟨"svc", "cs", "M", .firstMatch⟩ ⟨"A.svc", "A"⟩).value.interfacePath
    contract files = some "IA.cs" ∧ contract (files ++ later) = some "IB.cs" := by
  decide +kernel

end ServiceLinker.Proofs
