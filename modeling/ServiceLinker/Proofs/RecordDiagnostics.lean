import ServiceLinker.Proofs.LinkOutcomes

/-!
# What a record says about the relations that it misses

A relation is missing because a search gave no file: no declaration satisfies it, or several do and
the policy is strict. The record says which, once for each relation that it misses and in their
order, and names every candidate. The relations that it has are declarations of the index.
-/

namespace ServiceLinker.Proofs

/-- Why a search gave no file, as a diagnostic under a path says it. -/
inductive SaysWhy (policy : AmbiguityPolicy) (path label name : String) (missing : LinkError) :
    List SourceFile → Diagnostic → Prop
  | notFound : SaysWhy policy path label name missing [] ⟨missing.kind, path, missing.message⟩
  | ambiguous (hits : List SourceFile) (hstrict : policy = .error) (hmany : 2 ≤ hits.length) :
      SaysWhy policy path label name missing hits
        ⟨.ambiguousMatch, path, "ambiguous " ++ label ++ " match for " ++ name ++ ": " ++
          ", ".intercalate (hits.map (·.path))⟩

/-- A diagnostic explains why a relation of a descriptor is missing. Where the contract was looked
for depends on the implementation that was found. -/
inductive Explains (index : SourceIndex) (c : Config) (d : ServiceDescriptor)
    (implementationPath : Option String) : Relation → Diagnostic → Prop
  | implementation {x : Diagnostic}
      (hwhy : SaysWhy c.ambiguity d.path "class" d.simpleName
        (.implementationNotFound d.simpleName)
        (searched d.simpleName (implementers index d.simpleName)) x) :
      Explains index c d implementationPath .implementation x
  | interface {search : ContractSearch} {x : Diagnostic}
      (hsearch : search = contractSearch index d.simpleName c.contractMarker
        (listedBase index d.simpleName implementationPath))
      (hwhy : SaysWhy c.ambiguity d.path search.label search.name
        (.interfaceNotFound d.simpleName) search.files x) :
      Explains index c d implementationPath .interface x

/-! ### Searches that give no file -/

lemma strict_of_pick_eq_none {policy : AmbiguityPolicy} {files : List SourceFile}
    (h : pick policy files = none) (hne : files ≠ []) : policy = .error ∧ 2 ≤ files.length := by
  rcases files with _ | ⟨a, _ | ⟨b, files⟩⟩
  · exact absurd rfl hne
  · cases policy <;> cases h
  · cases policy with
    | firstMatch => cases h
    | error =>
      refine ⟨rfl, ?_⟩
      rw [List.length_cons, List.length_cons]
      omega

lemma saysWhy_of_reported {policy : AmbiguityPolicy} {label name : String} {missing e : LinkError}
    {files : List SourceFile} (h : reported policy label name missing files = .error e)
    (path : String) :
    SaysWhy policy path label name missing files (Diagnostic.ofError path e) := by
  unfold reported at h
  split at h
  · cases h
  · next hnone =>
    by_cases hnil : files = []
    · rw [if_pos hnil] at h
      cases h
      rw [hnil]
      exact .notFound
    · rw [if_neg hnil] at h
      cases h
      obtain ⟨hstrict, hmany⟩ := strict_of_pick_eq_none hnone hnil
      exact .ambiguous files hstrict hmany

/-- One search leaves one diagnostic exactly if the relation that it decides is missing. -/
lemma forall₂_failure {R : Relation → Diagnostic → Prop} {relation : Relation} {path : String}
    {report : Except LinkError SourceFile}
    (h : ∀ e, report = .error e → R relation (Diagnostic.ofError path e)) :
    List.Forall₂ R (if (reportedPath? report).isNone then [relation] else [])
      (failure path report) := by
  cases report with
  | ok file => exact .nil
  | error e => exact .cons (h e rfl) .nil

/-! ### Searches that give a file -/

lemma isSome_base_of_inheritance {index : SourceIndex} {service marker : String}
    {base : Option String}
    (h : (contractSearch index service marker base).source = .inheritance) :
    base.isSome = true := by
  cases base with
  | none => cases h
  | some name => rfl

lemma isSome_of_listedBase {index : SourceIndex} {service : String} {path : Option String}
    (h : (listedBase index service path).isSome = true) : path.isSome = true := by
  cases path with
  | none => cases h
  | some path => rfl

lemma mem_of_reportedPath {report : Except LinkError SourceFile} {path : String}
    {files : List SourceFile} (hfiles : ∀ file, report = .ok file → file ∈ files)
    (h : reportedPath? report = some path) : path ∈ files.map (·.path) := by
  cases report with
  | error e => cases h
  | ok file =>
    cases h
    exact List.mem_map_of_mem (hfiles file rfl)

/-- A record holds one diagnostic for each relation that it misses, in their order, and it says why
the search for that relation gave no file. The source of the interface is given exactly if its path
is; only an implementation leads to an inherited interface; and both relations are declarations. -/
theorem linkDescriptor_explains (index : SourceIndex) (c : Config) (d : ServiceDescriptor) :
    let r := (linkDescriptor index c d).value
    List.Forall₂ (Explains index c d r.implementationPath) r.missing r.diagnostics ∧
      r.interfaceSource.isSome = r.interfacePath.isSome ∧
      (r.interfaceSource = some .inheritance → r.implementationPath.isSome = true) ∧
      r.descriptorPath = d.path ∧
      ∀ path, r.implementationPath = some path ∨ r.interfacePath = some path →
        path ∈ index.declarations.map (·.path) := by
  intro r
  let implementation := classReport index c.ambiguity d.simpleName
  let search := contractSearchOf index c.contractMarker d implementation
  let interface := search.report c.ambiguity d.simpleName
  have hr : r = recordOf d implementation interface search.source := linkDescriptor_value index c d
  rw [hr]
  refine ⟨?_, ?_, ?_, rfl, ?_⟩
  · refine List.rel_append (forall₂_failure ?_) (forall₂_failure ?_)
    · intro e he
      exact .implementation (saysWhy_of_reported he d.path)
    · intro e he
      exact .interface rfl (saysWhy_of_reported he d.path)
  · change (interface.toOption.map _).isSome = (interface.toOption.map _).isSome
    rw [Option.isSome_map, Option.isSome_map]
  · intro hsource
    obtain ⟨file, -, hinherited⟩ := Option.map_eq_some_iff.mp hsource
    exact isSome_of_listedBase (isSome_base_of_inheritance hinherited)
  · rintro path (hpath | hpath)
    · refine mem_of_reportedPath (fun file hfile => ?_) hpath
      exact (List.mem_filter.mp (mem_of_searched (mem_of_reported hfile)).2).1
    · refine mem_of_reportedPath (fun file hfile => ?_) hpath
      exact (mem_of_contractSearch (mem_of_reported hfile)).1

/-- A class that is declared twice is no implementation, and so leads to no interface. -/
example :
    (linkDescriptor ⟨[⟨"a/A.cs", "A", "class A : IB"⟩, ⟨"b/A.cs", "A", "class A : IB"⟩,
      ⟨"IB.cs", "IB", "interface IB M"⟩], []⟩ ⟨"svc", "cs", "M", .error⟩
        ⟨"A.svc", "Shop.A"⟩).value.diagnostics =
      [⟨.ambiguousMatch, "A.svc", "ambiguous class match for A: a/A.cs, b/A.cs"⟩,
        ⟨.interfaceNotFound, "A.svc", "interface not found for A"⟩] := by
  decide +kernel

end ServiceLinker.Proofs
