import ServiceLinker.Proofs.TreeAccounting

/-!
# Descriptors are linked independently

What a link reports about a descriptor is a function of that descriptor and the declarations. A
report over many descriptors is therefore put together from the descriptors one by one, each path
counting at its first place.
-/

namespace ServiceLinker.Proofs

open SourceIndex (dedup)

/-! ### First files of their paths -/

/-- Some of the paths that were seen can be left out beforehand. -/
lemma dedup_filter {seen seen' more : List String} (h : ∀ p, p ∈ seen ↔ p ∈ more ∨ p ∈ seen')
    (files : List SourceFile) :
    dedup seen' (files.filter fun f => f.path ∉ more) = dedup seen files := by
  -- both sets of seen paths grow by the same path, so that the condition on them is kept
  induction files generalizing seen seen' with
  | nil => rfl
  | cons file files ih =>
    by_cases hmore : file.path ∈ more
    · rw [List.filter_cons_of_neg (by simpa using hmore), dedup,
        if_pos ((h file.path).mpr (.inl hmore)), ih h]
    · rw [List.filter_cons_of_pos (by simpa using hmore), dedup, dedup]
      have hseen : file.path ∈ seen ↔ file.path ∈ seen' := (h file.path).trans (or_iff_right hmore)
      have hnext : ∀ p, p ∈ file.path :: seen ↔ p ∈ more ∨ p ∈ file.path :: seen' := by
        intro p
        rw [List.mem_cons, List.mem_cons, h p, or_left_comm]
      simp only [hseen, ih h, ih hnext]

lemma dedup_congr {seen seen' : List String} (h : ∀ p, p ∈ seen ↔ p ∈ seen')
    (files : List SourceFile) : dedup seen' files = dedup seen files := by
  have hnone : (files.filter fun f => f.path ∉ []) = files := by
    rw [List.filter_eq_self]
    exact fun _ _ => decide_eq_true List.not_mem_nil
  have hseen : ∀ p, p ∈ seen ↔ p ∈ ([] : List String) ∨ p ∈ seen' := fun p => by
    rw [h p, or_iff_right List.not_mem_nil]
  rw [← dedup_filter hseen files, hnone]

lemma dedup_append_seen (seen : List String) (files more : List SourceFile) :
    dedup seen (files ++ more) = dedup seen files ++ dedup (files.map (·.path) ++ seen) more := by
  induction files generalizing seen with
  | nil => rfl
  | cons file files ih =>
    rw [List.cons_append, dedup, dedup, List.map_cons]
    split_ifs with hseen
    · have hagain : ∀ p, p ∈ file.path :: files.map (·.path) ++ seen ↔
          p ∈ files.map (·.path) ++ seen := by
        intro p
        rw [List.cons_append, List.mem_cons]
        refine or_iff_right_of_imp ?_
        rintro rfl
        exact List.mem_append_right _ hseen
      rw [ih, dedup_congr hagain]
    · have hmoved : ∀ p, p ∈ file.path :: files.map (·.path) ++ seen ↔
          p ∈ files.map (·.path) ++ file.path :: seen := by
        intro p
        rw [List.cons_append, List.mem_cons, List.mem_append, List.mem_append, List.mem_cons,
          or_left_comm]
      rw [ih, List.cons_append, dedup_congr hmoved]

/-- Behind other files those count whose path is new. -/
lemma dedup_append (files more : List SourceFile) :
    dedup [] (files ++ more) = dedup [] files ++
      dedup [] (more.filter fun f => f.path ∉ files.map (·.path)) := by
  have hseen : ∀ p, p ∈ files.map (·.path) ++ [] ↔ p ∈ files.map (·.path) ∨ p ∈ [] :=
    fun p => List.mem_append
  rw [dedup_append_seen, dedup_filter hseen]

lemma nodup_dedup (seen : List String) (files : List SourceFile) :
    ((dedup seen files).map (·.path)).Nodup ∧ ∀ f ∈ dedup seen files, f.path ∉ seen := by
  induction files generalizing seen with
  | nil => exact ⟨List.nodup_nil, fun _ h => absurd h List.not_mem_nil⟩
  | cons file files ih =>
    rw [dedup]
    split_ifs with hseen
    · exact ih seen
    · obtain ⟨hnodup, hfresh⟩ := ih (file.path :: seen)
      refine ⟨?_, ?_⟩
      · rw [List.map_cons, List.nodup_cons]
        refine ⟨?_, hnodup⟩
        intro hmem
        obtain ⟨f, hf, hpath⟩ := List.mem_map.mp hmem
        exact hfresh f hf (hpath ▸ List.mem_cons_self)
      · intro f hf
        rcases List.mem_cons.mp hf with rfl | hf
        · exact hseen
        · exact fun hmem => hfresh f hf (List.mem_cons_of_mem _ hmem)

lemma dedup_dedup (files : List SourceFile) : dedup [] (dedup [] files) = dedup [] files :=
  dedup_of_nodup (nodup_dedup [] files).1 fun _ _ => List.not_mem_nil

/-- Of the files at a path the first one counts. -/
lemma filter_dedup {seen : List String} {path : String} (h : path ∉ seen)
    (files : List SourceFile) :
    (dedup seen files).filter (·.path = path) = (files.find? (·.path = path)).toList := by
  induction files generalizing seen with
  | nil => rfl
  | cons file files ih =>
    rw [dedup]
    by_cases hpath : file.path = path
    · rw [if_neg (hpath ▸ h), List.filter_cons_of_pos (by simpa using hpath),
        List.find?_cons_of_pos (by simpa using hpath), Option.toList_some, List.cons.injEq]
      refine ⟨rfl, List.filter_eq_nil_iff.mpr fun f hf heq => ?_⟩
      rw [decide_eq_true_eq] at heq
      exact (nodup_dedup _ files).2 f hf (by rw [heq, hpath]; exact List.mem_cons_self)
    · rw [List.find?_cons_of_neg (by simpa using hpath)]
      split_ifs
      · exact ih h
      · rw [List.filter_cons_of_neg (by simpa using hpath)]
        exact ih fun hmem => (List.mem_cons.mp hmem).elim (fun heq => hpath heq.symm) h

/-! ### Lists that are put together from descriptors -/

/-- A list is put together from descriptors one by one, where each path counts at its first place.
The entries of a descriptor are filed under its path. -/
structure PutTogether {γ : Type} (place : γ → String) (entries : List SourceFile → List γ) :
    Prop where
  append : ∀ A B, entries (A ++ B) = entries A ++ entries (B.filter fun f => f.path ∉ A.map (·.path))
  at_path : ∀ A path,
    (entries A).filter (place · = path) = entries (A.find? (·.path = path)).toList
  distinct : ∀ A, (A.map (·.path)).Nodup → entries A = A.flatMap fun f => entries [f]
  perm : ∀ A A', (A.map (·.path)).Nodup → A.Perm A' → (entries A).Perm (entries A')

section

variable {γ : Type} {place : γ → String} {part : SourceFile → List γ}

lemma filter_flatMap_part (h : ∀ f, ∀ x ∈ part f, place x = f.path) (path : String)
    (files : List SourceFile) :
    (files.flatMap part).filter (place · = path) =
      (files.filter (·.path = path)).flatMap part := by
  induction files with
  | nil => rfl
  | cons file files ih =>
    rw [List.flatMap_cons, List.filter_append, ih]
    by_cases hpath : file.path = path
    · rw [List.filter_cons_of_pos (by simpa using hpath), List.flatMap_cons,
        List.filter_eq_self.mpr fun x hx => decide_eq_true ((h file x hx).trans hpath)]
    · rw [List.filter_cons_of_neg (by simpa using hpath), List.filter_eq_nil_iff.mpr ?_,
        List.nil_append]
      intro x hx
      rw [decide_eq_true_eq, h file x hx]
      exact hpath

/-- What is made from the files that count is put together from the files. -/
lemma putTogether (h : ∀ f, ∀ x ∈ part f, place x = f.path) :
    PutTogether place fun files => (dedup [] files).flatMap part := by
  have hdistinct : ∀ A : List SourceFile, (A.map (·.path)).Nodup → dedup [] A = A :=
    fun A hA => dedup_of_nodup hA fun _ _ => List.not_mem_nil
  have hone : ∀ f, (dedup [] [f]).flatMap part = part f := fun f => by
    rw [hdistinct [f] (List.nodup_singleton _), List.flatMap_singleton]
  refine ⟨?append, ?at_path, ?distinct, ?perm⟩
  case append =>
    intro A B
    rw [dedup_append, List.flatMap_append]
  case at_path =>
    intro A path
    rw [filter_flatMap_part h, filter_dedup List.not_mem_nil]
    cases A.find? (·.path = path) with
    | none => rfl
    | some f => rw [Option.toList_some, hone, List.flatMap_singleton]
  case distinct =>
    intro A hA
    simp only [hdistinct A hA, hone]
  case perm =>
    intro A A' hA hperm
    rw [hdistinct A hA, hdistinct A' ((hperm.map _).nodup_iff.mp hA)]
    exact hperm.flatMap_right part

end

/-! ### What a descriptor contributes -/

section

variable (declarations : List SourceFile) (c : Config)

/-- The records of a descriptor file: one if it names a service, and else none. -/
def recordsFrom (file : SourceFile) : List LinkedService :=
  ((ServiceDescriptor.parse file).toOption.map
    (recordUnder (.ofFiles declarations []) c.contractMarker c.ambiguity)).toList

lemma place_recordsFrom {file : SourceFile} {record : LinkedService}
    (h : record ∈ recordsFrom declarations c file) : record.descriptorPath = file.path := by
  rw [recordsFrom, Option.mem_toList, Option.map_eq_some_iff] at h
  obtain ⟨d, hd, rfl⟩ := h
  cases hparse : ServiceDescriptor.parse file with
  | error e => rw [hparse] at hd; cases hd
  | ok d' =>
    rw [hparse] at hd
    cases hd
    exact path_of_parse_ok hparse

lemma place_failure {α : Type} {path : String} {report : Except LinkError α} {x : Diagnostic}
    (h : x ∈ failure path report) : x.path = path := by
  cases report with
  | ok a => cases h
  | error e => rw [List.mem_singleton.mp h, Diagnostic.ofError]

lemma link_ofFiles (descriptors : List SourceFile) :
    (link (.ofFiles declarations descriptors) c).value =
      { root := ""
        records := (dedup [] descriptors).flatMap (recordsFrom declarations c)
        diagnostics := (dedup [] descriptors).flatMap fun file =>
          failure file.path (ServiceDescriptor.parse file) } := by
  have hfirst : dedup [] (SourceIndex.ofFiles declarations descriptors).descriptors =
      dedup [] descriptors := dedup_dedup descriptors
  rw [value_link, namedServices, refusals, hfirst, List.map_filterMap,
    List.filterMap_eq_flatMap_toList]
  rfl

end

/-- Descriptors are linked independently of each other: over given declarations the records and the
diagnostics of a link are both put together from the descriptors one by one. -/
theorem link_descriptors_independent (declarations : List SourceFile) (c : Config) :
    let report := fun descriptors => (link (.ofFiles declarations descriptors) c).value
    PutTogether (·.descriptorPath) (fun descriptors => (report descriptors).records) ∧
      PutTogether (·.path) (fun descriptors => (report descriptors).diagnostics) := by
  simp only [link_ofFiles]
  exact ⟨putTogether fun f x hx => place_recordsFrom declarations c hx,
    putTogether fun f x hx => place_failure hx⟩

/-- A class, and descriptors of it in two lists: each list repeats a path of its own, and the second
list also repeats a path of the first. -/
theorem link_descriptors_independent_repeated :
    let declarations : List SourceFile := [⟨"A.cs", "A", "class A : IA"⟩]
    let A : List SourceFile :=
      [⟨"a.svc", "a", "Service=\x22A\x22"⟩, ⟨"b.svc", "b", ""⟩, ⟨"a.svc", "a", ""⟩]
    let B : List SourceFile :=
      [⟨"b.svc", "b", "Service=\x22B\x22"⟩, ⟨"c.svc", "c", "Service=\x22C\x22"⟩, ⟨"c.svc", "c", ""⟩]
    let rest := B.filter fun f => f.path ∉ A.map (·.path)
    let report := fun descriptors => (link (.ofFiles declarations descriptors) .default).value
    rest.length = 2 ∧ (report A).records.length = 1 ∧ (report A).diagnostics.length = 1 ∧
      (report rest).records.length = 1 ∧
      (report (A ++ B)).records = (report A).records ++ (report rest).records ∧
      (report (A ++ B)).diagnostics = (report A).diagnostics ++ (report rest).diagnostics := by
  intro declarations A B rest report
  obtain ⟨hrecords, hdiagnostics⟩ := link_descriptors_independent declarations .default
  exact ⟨by decide +kernel, by decide +kernel, by decide +kernel, by decide +kernel,
    hrecords.append A B, hdiagnostics.append A B⟩

end ServiceLinker.Proofs
