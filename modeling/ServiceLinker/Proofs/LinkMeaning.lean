import Mathlib
import ServiceLinker.Linkage.Basic

/-!
# What a link means

A record is decided by three sets of declarations: the classes of the service, the interfaces of
the base that its class lists, and the contracts named after it. This file says the outcome of a
link in terms of these sets and of the one file that the ambiguity policy takes from each.
-/

namespace ServiceLinker.Proofs

/-! ### Deciding sets -/

/-- What a policy takes from the files that satisfy a search: the first, or else the only one. -/
def pick : AmbiguityPolicy → List SourceFile → Option SourceFile
  | .firstMatch, files => files.head?
  | .error, [file] => some file
  | .error, _ => none

/-- The declarations of the class of a service. -/
def implementers (index : SourceIndex) (service : String) : List SourceFile :=
  index.declarations.filter fun file =>
    Text.contains file.stem service && Pattern.declares .classKind service file.content

/-- The declarations of a base interface that hold the contract marker. -/
def baseContracts (index : SourceIndex) (base marker : String) : List SourceFile :=
  index.declarations.filter fun file =>
    Text.contains file.stem base && Pattern.declares .interfaceKind base file.content &&
      Text.contains file.content marker

/-- The declarations that hold the contract marker and are named after the service. -/
def namedContracts (index : SourceIndex) (service marker : String) : List SourceFile :=
  index.declarations.filter fun file =>
    Text.contains file.content marker && Text.contains file.stem ("I" ++ service)

/-- What a search reports about the files that satisfy it. -/
def reported (policy : AmbiguityPolicy) (label name : String) (missing : LinkError)
    (files : List SourceFile) : Except LinkError SourceFile :=
  match pick policy files with
  | some file => .ok file
  | none =>
    .error (if files = [] then missing else .ambiguousMatch name label (files.map (·.path)))

lemma pick_mem {policy : AmbiguityPolicy} {files : List SourceFile} {file : SourceFile}
    (h : pick policy files = some file) : file ∈ files := by
  unfold pick at h
  split at h
  · exact List.mem_of_head? h
  · rw [Option.some.injEq] at h
    rw [h]
    exact List.mem_singleton_self file
  · cases h

lemma pick_strict_of_two_le {files : List SourceFile} (h : 2 ≤ files.length) :
    pick .error files = none := by
  rcases files with _ | ⟨a, _ | ⟨b, files⟩⟩
  · rfl
  · rw [List.length_singleton] at h
    omega
  · rfl

lemma choose_eq (policy : AmbiguityPolicy) (label name : String) (files : List SourceFile) :
    policy.choose label name files =
      match pick policy files with
      | some file => .ok (some file)
      | none =>
        if files = [] then .ok none
        else .error (.ambiguousMatch name label (files.map (·.path))) := by
  rcases files with _ | ⟨a, _ | ⟨b, files⟩⟩ <;> cases policy <;> rfl

/-- A search that finds nothing reports what is missing. -/
lemma reported_eq_choose (policy : AmbiguityPolicy) (label name : String) (missing : LinkError)
    (files : List SourceFile) : reported policy label name missing files =
      (policy.choose label name files).bind fun found => found.elim (.error missing) .ok := by
  rw [reported, choose_eq]
  cases pick policy files with
  | some file => rfl
  | none =>
    by_cases hnil : files = []
    · rw [if_pos hnil, if_pos hnil]
      rfl
    · rw [if_neg hnil, if_neg hnil]
      rfl

lemma toOption_map_reported {α : Type} (policy : AmbiguityPolicy) (label name : String)
    (missing : LinkError) (files : List SourceFile) (f : SourceFile → α) :
    ((reported policy label name missing files).map f).toOption = (pick policy files).map f := by
  rw [reported]
  cases pick policy files <;> rfl

lemma reported_of_two_le {files : List SourceFile} (h : 2 ≤ files.length) (label name : String)
    (missing : LinkError) : reported .error label name missing files =
      .error (.ambiguousMatch name label (files.map (·.path))) := by
  have hne : files ≠ [] := by
    intro hnil
    rw [hnil, List.length_nil] at h
    omega
  rw [reported, pick_strict_of_two_le h, if_neg hne]

/-! ### The searches -/

lemma find?_path {files : List SourceFile} (h : (files.map (·.path)).Nodup) {file : SourceFile}
    (hfile : file ∈ files) : files.find? (·.path = file.path) = some file := by
  induction files with
  | nil => cases hfile
  | cons f files ih =>
    rw [List.map_cons, List.nodup_cons] at h
    rcases List.mem_cons.mp hfile with rfl | hfile
    · exact List.find?_cons_of_pos (by simp)
    · have hne : f.path ≠ file.path := by
        intro heq
        apply h.1
        rw [heq]
        exact List.mem_map_of_mem hfile
      rw [List.find?_cons_of_neg (by simpa using hne)]
      exact ih h.2 hfile

lemma declaration?_pick {index : SourceIndex} (h : (index.declarations.map (·.path)).Nodup)
    (policy : AmbiguityPolicy) (service : String) :
    ((pick policy (implementers index service)).map (·.path)).bind index.declaration? =
      pick policy (implementers index service) := by
  cases hp : pick policy (implementers index service) with
  | none => rfl
  | some file => exact find?_path h (List.mem_filter.mp (pick_mem hp)).1

/-- The hits of a search for a name, which are none if the name is oversized. -/
def searched (name : String) (files : List SourceFile) : List SourceFile :=
  if Pattern.searchable name then files else []

lemma searched_eq {name : String} (hs : Pattern.searchable name = true)
    (files : List SourceFile) : searched name files = files := if_pos hs

/-- The search that decides the contract of a service. -/
structure ContractSearch where
  label : String
  name : String
  source : InterfaceSource
  files : List SourceFile

/-- The interfaces of the listed base decide if there are any, the contracts named after the
service if not. -/
def contractSearch (index : SourceIndex) (service marker : String) (base : Option String) :
    ContractSearch :=
  let named : ContractSearch :=
    ⟨"contract", "I" ++ service, .contractFallback, namedContracts index service marker⟩
  match base with
  | none => named
  | some name =>
    let listed := searched name (baseContracts index name marker)
    if listed = [] then named else ⟨"interface", name, .inheritance, listed⟩

section

variable (index : SourceIndex) (policy : AmbiguityPolicy)

lemma findWhere_value (name : String) (kind : Pattern.Kind) (p : SourceFile → Bool) :
    (Declarations.findWhere ⟨index.declarations, policy⟩ name kind p).value =
      (policy.choose kind.keyword name (searched name (index.declarations.filter fun file =>
        Declarations.declares (Pattern.declares kind name) name file && p file))).map
        (Option.map fun file => ⟨file.path, name, kind⟩) := by
  rw [Declarations.findWhere, Logged.value_bind, Pattern.value_header?, searched]
  by_cases hs : Pattern.searchable name = true
  · rw [if_pos hs, if_pos hs]
    dsimp only
    rw [Declarations.firstWhere]
    split <;> next h => rw [h]; rfl
  · rw [if_neg hs, if_neg hs]
    cases policy <;> rfl

lemma resolveImplementation_searched (service : String) :
    (Declarations.resolveImplementation ⟨index.declarations, policy⟩ service).value =
      (reported policy "class" service (.implementationNotFound service)
        (searched service (implementers index service))).map
        fun file => ⟨file.path, service, .classKind⟩ := by
  have hset : (index.declarations.filter fun file =>
      Declarations.declares (Pattern.declares .classKind service) service file && true) =
      implementers index service := by
    simp only [Declarations.declares, Bool.and_true, implementers]
  rw [Declarations.resolveImplementation, Logged.value_bind, Declarations.find,
    findWhere_value index policy, hset, reported_eq_choose, Pattern.Kind.keyword]
  rcases policy.choose "class" service (searched service (implementers index service))
    with e | _ | file <;> rfl

lemma resolveImplementation_value {service : String} (hs : Pattern.searchable service = true) :
    (Declarations.resolveImplementation ⟨index.declarations, policy⟩ service).value =
      (reported policy "class" service (.implementationNotFound service)
        (implementers index service)).map fun file => ⟨file.path, service, .classKind⟩ := by
  rw [resolveImplementation_searched, searched_eq hs]

lemma resolveByMarker_eq (service marker : String) (declared : Option String) :
    Declarations.resolveByMarker ⟨index.declarations, policy⟩ service marker declared =
      (reported policy "contract" ("I" ++ service) (.interfaceNotFound service)
        (namedContracts index service marker)).map
        fun file => ⟨file.path, declared, .contractFallback⟩ := by
  have hset : (Declarations.firstWhere ⟨index.declarations, policy⟩ "contract" ("I" ++ service)
      fun file => Text.contains file.content marker && Text.contains file.stem ("I" ++ service)) =
      policy.choose "contract" ("I" ++ service) (namedContracts index service marker) := rfl
  unfold Declarations.resolveByMarker Declarations.contractName
  dsimp only
  rw [hset, reported_eq_choose]
  rcases policy.choose "contract" ("I" ++ service) (namedContracts index service marker)
    with e | _ | file <;> rfl

/-- The contract is reported from the files of the search that decides it. -/
lemma resolveInterface_searched (service marker : String) (implementation : Option SourceFile) :
    let base := (Declarations.declaredInterface service implementation).value
    let search := contractSearch index service marker base
    (Declarations.resolveInterface ⟨index.declarations, policy⟩ service implementation
        marker).value =
      (reported policy search.label search.name (.interfaceNotFound service) search.files).map
        fun file => ⟨file.path, base, search.source⟩ := by
  dsimp only
  rw [Declarations.resolveInterface, Logged.value_bind]
  cases (Declarations.declaredInterface service implementation).value with
  | none => exact resolveByMarker_eq index policy service marker none
  | some base =>
    have hset : (index.declarations.filter fun file =>
        Declarations.declares (Pattern.declares .interfaceKind base) base file &&
          Text.contains file.content marker) = baseContracts index base marker := rfl
    dsimp only [contractSearch]
    rw [Logged.value_bind, findWhere_value index policy, hset]
    split_ifs with hnil
    · rw [hnil]
      cases policy <;> exact resolveByMarker_eq index _ service marker (some base)
    · rw [reported, choose_eq]
      cases pick policy (searched base (baseContracts index base marker)) with
      | some found => rfl
      | none =>
        simp only [hnil, if_false]
        rfl

lemma declaredInterface_value {service : String} (hs : Pattern.searchable service = true)
    (implementation : Option SourceFile) :
    (Declarations.declaredInterface service implementation).value =
      implementation.bind fun file => Pattern.inheritedInterface? service file.content := by
  cases implementation with
  | none => rfl
  | some file =>
    rw [Declarations.declaredInterface, Pattern.value_inherited?, if_pos hs, Option.bind_some]

lemma resolveInterface_listed {service marker base : String} {file : SourceFile}
    (hs : Pattern.searchable service = true)
    (hbase : Pattern.inheritedInterface? service file.content = some base)
    (hn : Pattern.searchable base = true) (hne : baseContracts index base marker ≠ []) :
    (Declarations.resolveInterface ⟨index.declarations, policy⟩ service (some file) marker).value =
      (reported policy "interface" base (.interfaceNotFound service)
        (baseContracts index base marker)).map
        fun found => ⟨found.path, some base, .inheritance⟩ := by
  have hsearch := resolveInterface_searched index policy service marker (some file)
  rw [declaredInterface_value hs, Option.bind_some, hbase] at hsearch
  simpa only [contractSearch, searched_eq hn, if_neg hne] using hsearch

lemma resolveInterface_named {service marker : String} {implementation : Option SourceFile}
    (hs : Pattern.searchable service = true)
    (hn : ∀ base, implementation.bind (fun file => Pattern.inheritedInterface? service
      file.content) = some base →
        Pattern.searchable base = true ∧ baseContracts index base marker = []) :
    ∃ declared, (Declarations.resolveInterface ⟨index.declarations, policy⟩ service implementation
        marker).value =
      (reported policy "contract" ("I" ++ service) (.interfaceNotFound service)
        (namedContracts index service marker)).map
        fun file => ⟨file.path, declared, .contractFallback⟩ := by
  have hsearch := resolveInterface_searched index policy service marker implementation
  rw [declaredInterface_value hs] at hsearch
  cases hbase : implementation.bind fun file =>
    Pattern.inheritedInterface? service file.content with
  | none =>
    rw [hbase] at hsearch
    exact ⟨none, hsearch⟩
  | some base =>
    obtain ⟨hsearchable, hnil⟩ := hn base hbase
    rw [hbase] at hsearch
    refine ⟨some base, ?_⟩
    simpa only [contractSearch, searched_eq hsearchable, hnil, if_pos] using hsearch

end

/-! ### Records -/

/-- The record takes its contract from the files of a deciding set. -/
def TakesContract (r : LinkedService) (policy : AmbiguityPolicy) (files : List SourceFile)
    (source : InterfaceSource) : Prop :=
  r.interfacePath = (pick policy files).map (·.path) ∧
    r.interfaceSource = (pick policy files).map fun _ => source

/-- Under the strict policy the record names all files of a deciding set that has several. -/
def NamesAmbiguity (r : LinkedService) (policy : AmbiguityPolicy) (label name : String)
    (files : List SourceFile) : Prop :=
  policy = .error → 2 ≤ files.length →
    Diagnostic.ofError r.descriptorPath (.ambiguousMatch name label (files.map (·.path))) ∈
      r.diagnostics

lemma failure_map_reported {α : Type} {files : List SourceFile} (h : 2 ≤ files.length)
    (path label name : String) (missing : LinkError) (f : SourceFile → α) :
    Diagnostic.ofError path (.ambiguousMatch name label (files.map (·.path))) ∈
      failure path ((reported .error label name missing files).map f) := by
  rw [reported_of_two_le h]
  exact List.mem_singleton_self _

section

variable {index : SourceIndex} {c : Config} {d : ServiceDescriptor}

lemma implementation_of_link (hpaths : (index.declarations.map (·.path)).Nodup)
    (hs : Pattern.searchable d.simpleName = true) :
    ((Declarations.resolveImplementation ⟨index.declarations, c.ambiguity⟩
        d.simpleName).value.toOption.map (·.path)).bind index.declaration? =
      pick c.ambiguity (implementers index d.simpleName) := by
  rw [resolveImplementation_value index c.ambiguity hs, toOption_map_reported, Option.map_map]
  exact declaration?_pick hpaths c.ambiguity d.simpleName

lemma contract_of_link {label name : String} {missing : LinkError} {files : List SourceFile}
    {source : InterfaceSource} {declared : Option String}
    (hpaths : (index.declarations.map (·.path)).Nodup)
    (hs : Pattern.searchable d.simpleName = true)
    (h : (Declarations.resolveInterface ⟨index.declarations, c.ambiguity⟩ d.simpleName
        (pick c.ambiguity (implementers index d.simpleName)) c.contractMarker).value =
      (reported c.ambiguity label name missing files).map fun file =>
        ⟨file.path, declared, source⟩) :
    TakesContract (linkDescriptor index c d).value c.ambiguity files source ∧
      NamesAmbiguity (linkDescriptor index c d).value c.ambiguity label name files := by
  rw [← implementation_of_link hpaths hs] at h
  refine ⟨⟨?_, ?_⟩, ?_⟩
  · change Option.map _ (Except.toOption (Logged.value _)) = _
    rw [h, toOption_map_reported, Option.map_map]
    rfl
  · change Option.map _ (Except.toOption (Logged.value _)) = _
    rw [h, toOption_map_reported, Option.map_map]
    rfl
  · intro hstrict hmany
    change _ ∈ failure d.path (Logged.value _) ++ failure d.path (Logged.value _)
    rw [h, hstrict]
    exact List.mem_append_right _ (failure_map_reported hmany d.path label name missing _)

end

/-- What a link means: the implementation is what the policy takes from the classes of the service,
and the contract is what it takes from the interfaces of the listed base, or from the contracts
named after the service if the base has none. -/
theorem link_meaning (index : SourceIndex) (c : Config) (d : ServiceDescriptor)
    (hpaths : (index.declarations.map (·.path)).Nodup)
    (hs : Pattern.searchable d.simpleName = true)
    (hn : ∀ file base, pick c.ambiguity (implementers index d.simpleName) = some file →
      Pattern.inheritedInterface? d.simpleName file.content = some base →
        Pattern.searchable base = true) :
    let classes := implementers index d.simpleName
    let chosen := pick c.ambiguity classes
    let base := chosen.bind fun file => Pattern.inheritedInterface? d.simpleName file.content
    let listed := fun n => baseContracts index n c.contractMarker
    let named := namedContracts index d.simpleName c.contractMarker
    let r := (linkDescriptor index c d).value
    r.implementationPath = chosen.map (·.path) ∧
      (c.ambiguity = .firstMatch → (r.implementationPath = none ↔ classes = [])) ∧
      NamesAmbiguity r c.ambiguity "class" d.simpleName classes ∧
      (∀ n, base = some n → listed n ≠ [] →
        TakesContract r c.ambiguity (listed n) .inheritance ∧
          NamesAmbiguity r c.ambiguity "interface" n (listed n)) ∧
      ((∀ n, base = some n → listed n = []) →
        TakesContract r c.ambiguity named .contractFallback ∧
          NamesAmbiguity r c.ambiguity "contract" ("I" ++ d.simpleName) named) := by
  intro classes chosen base listed named r
  have himplementation : r.implementationPath = chosen.map (·.path) := by
    change Option.map _ (Except.toOption (Logged.value _)) = _
    rw [resolveImplementation_value index c.ambiguity hs, toOption_map_reported, Option.map_map]
    rfl
  refine ⟨himplementation, ?_, ?_, ?_, ?_⟩
  · intro hfirst
    have hchosen : chosen = classes.head? := by
      change pick c.ambiguity classes = _
      rw [hfirst]
      rfl
    rw [himplementation, hchosen, Option.map_eq_none_iff, List.head?_eq_none_iff]
  · intro hstrict hmany
    change _ ∈ failure d.path (Logged.value _) ++ failure d.path (Logged.value _)
    rw [resolveImplementation_value index c.ambiguity hs, hstrict]
    exact List.mem_append_left _ (failure_map_reported hmany d.path "class" d.simpleName _ _)
  · intro n hbase hne
    obtain ⟨file, hfile, hlists⟩ := Option.bind_eq_some_iff.mp hbase
    have hsearch := resolveInterface_listed index c.ambiguity hs hlists (hn file n hfile hlists) hne
    rw [← hfile] at hsearch
    exact contract_of_link hpaths hs hsearch
  · intro hnone
    have hlisted : ∀ n, chosen.bind (fun file =>
        Pattern.inheritedInterface? d.simpleName file.content) = some n →
          Pattern.searchable n = true ∧ baseContracts index n c.contractMarker = [] := by
      intro n hbase
      obtain ⟨file, hfile, hlists⟩ := Option.bind_eq_some_iff.mp hbase
      exact ⟨hn file n hfile hlists, hnone n hbase⟩
    obtain ⟨declared, hsearch⟩ := resolveInterface_named index c.ambiguity hs hlisted
    exact contract_of_link hpaths hs hsearch

def doubledBase : SourceIndex :=
  ⟨[⟨"A.cs", "A", "class A : IB"⟩, ⟨"x/IB.cs", "IB", "interface IB M"⟩,
    ⟨"y/IB.cs", "IB", "interface IB M"⟩, ⟨"IA.cs", "IA", "M"⟩], []⟩

/-- A base that is declared twice leaves the contract open; the named contract is not taken. -/
theorem link_meaning_doubledBase :
    (doubledBase.declarations.map (·.path)).Nodup ∧ Pattern.searchable "A" = true ∧
      Pattern.searchable "IB" = true ∧
      namedContracts doubledBase "A" "M" ≠ [] ∧
      let r := (linkDescriptor doubledBase ⟨"svc", "cs", "M", .error⟩ ⟨"A.svc", "Shop.A"⟩).value
      r.implementationPath = some "A.cs" ∧ r.interfacePath = none ∧
        Diagnostic.ofError "A.svc" (.ambiguousMatch "IB" "interface" ["x/IB.cs", "y/IB.cs"]) ∈
          r.diagnostics := by
  have hpaths : (doubledBase.declarations.map (·.path)).Nodup := by decide
  have hname : ServiceDescriptor.simpleName ⟨"A.svc", "Shop.A"⟩ = "A" := by decide +kernel
  have hs : Pattern.searchable "A" = true := by decide +kernel
  have hn : Pattern.searchable "IB" = true := by decide +kernel
  have hnamed : namedContracts doubledBase "A" "M" ≠ [] := by decide +kernel
  have hchosen : pick .error (implementers doubledBase "A") =
      some ⟨"A.cs", "A", "class A : IB"⟩ := by decide +kernel
  have hbase : Pattern.inheritedInterface? "A" "class A : IB" = some "IB" := by decide +kernel
  have hlisted : baseContracts doubledBase "IB" "M" =
      [⟨"x/IB.cs", "IB", "interface IB M"⟩, ⟨"y/IB.cs", "IB", "interface IB M"⟩] := by
    decide +kernel
  have hmeaning := link_meaning doubledBase ⟨"svc", "cs", "M", .error⟩ ⟨"A.svc", "Shop.A"⟩ hpaths
    (by rw [hname]; exact hs) (by
      rw [hname, hchosen]
      intro file base hfile hlists
      rw [Option.some.injEq] at hfile
      rw [← hfile, hbase, Option.some.injEq] at hlists
      rw [← hlists]
      exact hn)
  rw [hname] at hmeaning
  dsimp only at hmeaning
  rw [hchosen] at hmeaning
  obtain ⟨himplementation, -, -, hcontract, -⟩ := hmeaning
  have hne : baseContracts doubledBase "IB" "M" ≠ [] := by
    rw [hlisted]
    exact List.cons_ne_nil _ _
  obtain ⟨⟨hpath, -⟩, hambiguous⟩ := hcontract "IB" hbase hne
  rw [hlisted] at hpath hambiguous
  exact ⟨hpaths, hs, hn, hnamed, himplementation, hpath, hambiguous rfl (by decide)⟩

end ServiceLinker.Proofs
