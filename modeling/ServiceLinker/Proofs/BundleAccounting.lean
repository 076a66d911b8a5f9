import ServiceLinker.Bundle.Collection
import ServiceLinker.Proofs.ScriptOutcomes

/-!
# What becomes of resolved records

Every resolved record is either bundled or skipped, on the strength of its own reads alone: its
files are read in a fixed order up to the first that is of no use. The file system may answer as it
likes, also differently each time that it is asked for the same file, and the report may be any.
-/

namespace ServiceLinker.Proofs

/-- The files that a record names, in the order in which they are read. -/
def recordFiles (r : LinkedService) : List String :=
  r.descriptorPath :: (r.implementationPath.toList ++ r.interfacePath.toList)

def artifactsOf (b : ServiceBundle) : List Artifact := [b.descriptor, b.implementation, b.interface]

/-- The call that read the text of an artifact. -/
def readingOf (a : Artifact) : Call := ⟨.readText a.path, .ok a.content⟩

/-- A file that was asked for is of no use, and why. -/
inductive Unusable : Except String String → String → Prop
  | unreadable (reason : String) : Unusable (.error reason) reason
  | blank {content : String} (hblank : Text.allBlank content = true) :
      Unusable (.ok content) "file is empty"

/-- The calls that are made for a record, and what becomes of it: a bundle of the texts that were
read, or a diagnostic about the first file that is of no use. -/
inductive HandsOff (r : LinkedService) : List Call → Except Diagnostic ServiceBundle → Prop
  | bundled (b : ServiceBundle) (hservice : b.serviceName = r.serviceName)
      (hqualified : b.qualifiedName = r.qualifiedName)
      (hfiles : recordFiles r = (artifactsOf b).map (·.path))
      (htexts : ∀ a ∈ artifactsOf b, Text.allBlank a.content = false) :
      HandsOff r ((artifactsOf b).map readingOf) (.ok b)
  | skipped (read : List Artifact) (path : String) (unread : List String)
      (answer : Except String String) (reason : String)
      (hfiles : recordFiles r = read.map (·.path) ++ path :: unread)
      (htexts : ∀ a ∈ read, Text.allBlank a.content = false)
      (hunusable : Unusable answer reason) :
      HandsOff r (read.map readingOf ++ [⟨.readText path, answer⟩])
        (.error ⟨.fileUnreadable, r.descriptorPath, "cannot read " ++ path ++ ": " ++ reason⟩)

/-! ### The reads of a record -/

/-- Reading a file that must hold something, before the script goes on with it. -/
lemma cases_of_reaches_load {β : Type} {path : String}
    {next : Artifact → Script (Except LinkError β)} {calls : List Call}
    {result : Except LinkError β}
    (h : Reaches (do
      match ← Artifact.load path with
      | .error e => pure (.error e)
      | .ok a => next a) calls result) :
    (∃ content rest, Text.allBlank content = false ∧ calls = readingOf ⟨path, content⟩ :: rest ∧
        Reaches (next ⟨path, content⟩) rest result) ∨
      ∃ answer reason, Unusable answer reason ∧ calls = [⟨.readText path, answer⟩] ∧
        result = .error (.fileUnreadable path reason) := by
  obtain ⟨loaded, first, rest, hfirst, hrest, rfl⟩ := exists_of_reaches_bind h
  unfold Artifact.load at hfirst
  obtain ⟨answer, nothing, rfl, hend⟩ := exists_of_reaches_request hfirst
  cases answer with
  | error reason =>
    obtain ⟨rfl, rfl⟩ := hend
    obtain ⟨rfl, rfl⟩ := hrest
    exact .inr ⟨_, reason, .unreadable reason, rfl, rfl⟩
  | ok content =>
    by_cases hblank : Text.allBlank content = true
    · dsimp only at hend
      rw [if_pos hblank] at hend
      obtain ⟨rfl, rfl⟩ := hend
      obtain ⟨rfl, rfl⟩ := hrest
      exact .inr ⟨_, _, .blank hblank, rfl, rfl⟩
    · dsimp only at hend
      rw [if_neg hblank] at hend
      obtain ⟨rfl, rfl⟩ := hend
      exact .inl ⟨content, rest, Bool.eq_false_of_not_eq_true hblank, rfl, hrest⟩

section

variable {r : LinkedService} {calls : List Call}

lemma handsOff_of_reaches_loadBundle {implementation interface : String}
    (himplementation : r.implementationPath = some implementation)
    (hinterface : r.interfacePath = some interface) {result : Except LinkError ServiceBundle}
    (h : Reaches (r.loadBundle implementation interface) calls result) :
    HandsOff r calls (result.mapError (Diagnostic.ofError r.descriptorPath)) := by
  have hfiles : recordFiles r = [r.descriptorPath, implementation, interface] := by
    rw [recordFiles, himplementation, hinterface]
    rfl
  have hnone : ∀ a ∈ ([] : List Artifact), Text.allBlank a.content = false :=
    fun _ hmem => absurd hmem List.not_mem_nil
  unfold LinkedService.loadBundle at h
  -- each read either gives a text and goes on, or is of no use and the last
  rcases cases_of_reaches_load h with
    ⟨content₁, rest, htext₁, rfl, h₁⟩ | ⟨answer, reason, hunusable, rfl, rfl⟩
  · rcases cases_of_reaches_load h₁ with
      ⟨content₂, rest, htext₂, rfl, h₂⟩ | ⟨answer, reason, hunusable, rfl, rfl⟩
    · rcases cases_of_reaches_load h₂ with
        ⟨content₃, rest, htext₃, rfl, h₃⟩ | ⟨answer, reason, hunusable, rfl, rfl⟩
      · obtain ⟨rfl, rfl⟩ := h₃
        exact .bundled ⟨r.serviceName, r.qualifiedName, ⟨r.descriptorPath, content₁⟩,
          ⟨implementation, content₂⟩, ⟨interface, content₃⟩⟩ rfl rfl hfiles
          (List.forall_mem_cons.mpr ⟨htext₁, List.forall_mem_cons.mpr
            ⟨htext₂, List.forall_mem_cons.mpr ⟨htext₃, hnone⟩⟩⟩)
      · exact .skipped [⟨r.descriptorPath, content₁⟩, ⟨implementation, content₂⟩] interface []
          answer reason hfiles
          (List.forall_mem_cons.mpr ⟨htext₁, List.forall_mem_cons.mpr ⟨htext₂, hnone⟩⟩) hunusable
    · exact .skipped [⟨r.descriptorPath, content₁⟩] implementation [interface] answer reason
        hfiles (List.forall_mem_cons.mpr ⟨htext₁, hnone⟩) hunusable
  · exact .skipped [] r.descriptorPath [implementation, interface] answer reason hfiles hnone
      hunusable

lemma handsOff_of_reaches (hresolved : r.isResolved = true)
    {outcome : Except Diagnostic ServiceBundle} (h : Reaches r.bundleOrDiagnostic calls outcome) :
    HandsOff r calls outcome := by
  rw [LinkedService.isResolved, Bool.and_eq_true] at hresolved
  obtain ⟨implementation, himplementation⟩ := Option.isSome_iff_exists.mp hresolved.1
  obtain ⟨interface, hinterface⟩ := Option.isSome_iff_exists.mp hresolved.2
  unfold LinkedService.bundleOrDiagnostic at h
  obtain ⟨result, first, rest, hfirst, hrest, rfl⟩ := exists_of_reaches_bind h
  unfold LinkedService.bundle at hfirst
  rw [himplementation, hinterface] at hfirst
  have hhanded := handsOff_of_reaches_loadBundle himplementation hinterface hfirst
  cases result with
  | ok b =>
    obtain ⟨rfl, rfl⟩ := hrest
    rw [List.append_nil]
    exact hhanded
  | error e =>
    obtain ⟨rfl, rfl⟩ := hrest
    rw [List.append_nil]
    exact hhanded

end

/-! ### One outcome for each course of reads -/

lemma readingOf_injective : Function.Injective readingOf := by
  rintro ⟨path, content⟩ ⟨path', content'⟩ heq
  cases heq
  rfl

lemma artifactsOf_inj {b b' : ServiceBundle}
    (hservice : b.serviceName = b'.serviceName) (hqualified : b.qualifiedName = b'.qualifiedName)
    (h : artifactsOf b = artifactsOf b') : b = b' := by
  cases b
  cases b'
  cases h
  dsimp only at hservice hqualified
  rw [hservice, hqualified]

lemma Unusable.unique {answer : Except String String} {reason reason' : String}
    (h : Unusable answer reason) (h' : Unusable answer reason') : reason = reason' := by
  cases h <;> cases h' <;> rfl

lemma readings_ne {as : List Artifact} {calls : List Call} {path : String}
    {answer : Except String String} {reason : String}
    (htexts : ∀ a ∈ as, Text.allBlank a.content = false) (hunusable : Unusable answer reason) :
    as.map readingOf ≠ calls ++ [⟨.readText path, answer⟩] := by
  intro heq
  have hlast : Call.mk (.readText path) answer ∈ as.map readingOf := by
    rw [heq]
    exact List.mem_append_right _ (List.mem_singleton_self _)
  obtain ⟨a, ha, hcall⟩ := List.mem_map.mp hlast
  have htext := htexts a ha
  cases hcall
  cases hunusable with
  | blank hblank =>
    rw [hblank] at htext
    cases htext

/-- What becomes of a record follows from the answers to its own reads. -/
lemma HandsOff.unique {r : LinkedService} {calls : List Call}
    {outcome outcome' : Except Diagnostic ServiceBundle} (h : HandsOff r calls outcome)
    (h' : HandsOff r calls outcome') : outcome' = outcome := by
  generalize hcalls : calls = calls' at h'
  cases h with
  | bundled b hservice hqualified hfiles htexts =>
    cases h' with
    | bundled b' hservice' hqualified' hfiles' htexts' =>
      have hartifacts : artifactsOf b = artifactsOf b' :=
        readingOf_injective.list_map hcalls
      have hsame : b = b' :=
        artifactsOf_inj (hservice.trans hservice'.symm) (hqualified.trans hqualified'.symm)
          hartifacts
      rw [hsame]
    | skipped read path unread answer reason hfiles' htexts' hunusable =>
      exact absurd hcalls (readings_ne htexts hunusable)
  | skipped read path unread answer reason hfiles htexts hunusable =>
    cases h' with
    | bundled b' hservice' hqualified' hfiles' htexts' =>
      exact absurd hcalls.symm (readings_ne htexts' hunusable)
    | skipped read' path' unread' answer' reason' hfiles' htexts' hunusable' =>
      obtain ⟨-, hlast⟩ := List.append_inj' hcalls rfl
      cases hlast
      rw [hunusable.unique hunusable']

/-! ### The hand-off -/

/-- The diagnostic of a record that was skipped. -/
def diagnostic? : Except Diagnostic ServiceBundle → Option Diagnostic
  | .ok _ => none
  | .error d => some d

lemma length_bundles_add_diagnostics (outcomes : List (Except Diagnostic ServiceBundle)) :
    (outcomes.filterMap (·.toOption)).length + (outcomes.filterMap diagnostic?).length =
      outcomes.length := by
  induction outcomes with
  | nil => rfl
  | cons outcome outcomes ih =>
    cases outcome with
    | ok b =>
      have hbundles : (Except.ok b :: outcomes).filterMap (·.toOption) =
          b :: outcomes.filterMap (·.toOption) := rfl
      have hdiagnostics : (Except.ok b :: outcomes).filterMap diagnostic? =
          outcomes.filterMap diagnostic? := rfl
      rw [hbundles, hdiagnostics, List.length_cons, List.length_cons]
      omega
    | error d =>
      have hbundles : (Except.error d :: outcomes).filterMap (·.toOption) =
          outcomes.filterMap (·.toOption) := rfl
      have hdiagnostics : (Except.error d :: outcomes).filterMap diagnostic? =
          d :: outcomes.filterMap diagnostic? := rfl
      rw [hbundles, hdiagnostics, List.length_cons, List.length_cons]
      omega

/-- Every resolved record is handed off or skipped for itself, in the order of the report, and no
other record is read or noted. What becomes of a record follows from the answers to its own reads,
which end with the first file that is of no use. -/
theorem bundleResolved_accounts {σ : Type} {fs : FileSystem σ} (hfs : fs.Answers)
    (report : LinkReport) (s : σ) :
    ∃ steps : List (List Call × Except Diagnostic ServiceBundle), ∃ bundles diagnostics s' log,
      report.bundleResolved.run fs s = ⟨.ok (bundles, diagnostics), s', log⟩ ∧
      List.Forall₂ (fun r step => HandsOff r step.1 step.2 ∧
        ∀ outcome, HandsOff r step.1 outcome → outcome = step.2) report.resolved steps ∧
      callsOf fs report.bundleResolved s = steps.flatMap (·.1) ∧
      bundles = (steps.map (·.2)).filterMap (·.toOption) ∧
      diagnostics = (steps.map (·.2)).filterMap diagnostic? ∧
      bundles.length + diagnostics.length = report.resolved.length := by
  obtain ⟨⟨bundles, diagnostics⟩, s', log, hrun, hreached⟩ :=
    exists_reached hfs report.bundleResolved s
  unfold LinkReport.bundleResolved at hreached
  obtain ⟨outcomes, calls, nothing, htraversed, ⟨rfl, hend⟩, hcalls⟩ :=
    exists_of_reaches_bind hreached
  obtain ⟨steps, rfl, rfl, hsteps⟩ := exists_of_reaches_traverse htraversed
  cases hend
  have hresolved : ∀ r ∈ report.resolved, r.isResolved = true :=
    fun r hr => (List.mem_filter.mp hr).2
  have hhanded : List.Forall₂ (fun r step => HandsOff r step.1 step.2 ∧
      ∀ outcome, HandsOff r step.1 outcome → outcome = step.2) report.resolved steps := by
    refine ((List.forall₂_and_left _ _).mpr ⟨hresolved, hsteps⟩).imp ?_
    rintro r step ⟨hr, hreached⟩
    have hhands := handsOff_of_reaches hr hreached
    exact ⟨hhands, fun outcome => hhands.unique⟩
  refine ⟨steps, _, _, s', log, hrun, hhanded, ?_, rfl, rfl, ?_⟩
  · rw [List.append_nil] at hcalls
    exact hcalls
  · have hlength := length_bundles_add_diagnostics (steps.map (·.2))
    rw [List.length_map] at hlength
    rw [hhanded.length_eq]
    exact hlength

/-! ### A file that changes between its reads -/

/-- Reads are answered from a list one after another, whatever file they are for. -/
def dictated : FileSystem (List (Except String String)) where
  answer
    | .readText _, answers => (.ok (answers.headD (.error "no answer")), answers.tail)
    | .walkFiles _, answers => (.ok (.ok []), answers)
    | .write _ _, answers => (.ok (.ok ()), answers)
    | .exists _, answers => (.ok false, answers)

lemma dictated_answers : dictated.Answers := by
  intro request answers
  cases request <;> exact ⟨_, rfl⟩

/-- Records that name one file three times, and a record without an interface. -/
def oneFileReport : LinkReport :=
  let resolved : LinkedService := ⟨"S", "x.S", "f", some "f", some "f", some .inheritance, []⟩
  ⟨"r", [resolved, { resolved with interfacePath := none }, resolved, resolved], []⟩

theorem bundleResolved_accounts_oneFileReport :
    dictated.Answers ∧
      ∃ steps : List (List Call × Except Diagnostic ServiceBundle), ∃ s' log,
        oneFileReport.bundleResolved.run dictated
          [.ok "a", .ok "b", .ok " ", .error "gone", .ok "a", .ok "b", .ok "c"] =
            ⟨.ok ([⟨"S", "x.S", ⟨"f", "a"⟩, ⟨"f", "b"⟩, ⟨"f", "c"⟩⟩],
              [⟨.fileUnreadable, "f", "cannot read f: file is empty"⟩,
                ⟨.fileUnreadable, "f", "cannot read f: gone"⟩]), s', log⟩ ∧
        List.Forall₂ (fun r step => HandsOff r step.1 step.2) oneFileReport.resolved steps ∧
        (steps.flatMap (·.1)).length = 7 := by
  let answers : List (Except String String) :=
    [.ok "a", .ok "b", .ok " ", .error "gone", .ok "a", .ok "b", .ok "c"]
  have hresult : (oneFileReport.bundleResolved.run dictated answers).result =
      .ok ([⟨"S", "x.S", ⟨"f", "a"⟩, ⟨"f", "b"⟩, ⟨"f", "c"⟩⟩],
        [⟨.fileUnreadable, "f", "cannot read f: file is empty"⟩,
          ⟨.fileUnreadable, "f", "cannot read f: gone"⟩]) := by
    decide +kernel
  have hlength : (callsOf dictated oneFileReport.bundleResolved answers).length = 7 := by
    decide +kernel
  obtain ⟨steps, bundles, diagnostics, s', log, hrun, hsteps, hcalls, -⟩ :=
    bundleResolved_accounts dictated_answers oneFileReport answers
  rw [hrun, Except.ok.injEq] at hresult
  rw [hresult] at hrun
  rw [hcalls] at hlength
  exact ⟨dictated_answers, steps, s', log, hrun, hsteps.imp fun _ _ h => h.1, hlength⟩

end ServiceLinker.Proofs
