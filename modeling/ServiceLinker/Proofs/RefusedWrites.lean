import ServiceLinker.Proofs.BundleWriting
import ServiceLinker.Proofs.ScriptOutcomes

/-!
# Writes that are refused

The names of a run are chosen before anything is written, and neither a test for an earlier file nor
a refused write changes them. A run whose write is refused has therefore made a beginning of the
full run: the files before the refused one are written as they would be, and nothing behind it is
looked at.
-/

namespace ServiceLinker.Proofs

open ServiceBundle (writeBeside writeAll)

/-! ### Courses of a run -/

lemma exists_of_reaches_write {path text : String}
    {next : Except String Unit → Script (Except WriteFailure Unit)} {calls : List Call}
    {result : Except WriteFailure Unit}
    (hnext : ∀ answer, next answer = pure (answer.mapError (WriteFailure.mk path)))
    (h : Reaches (Script.write path text >>= next) calls result) :
    ∃ answer : Except String Unit, calls = [⟨.write path text, answer⟩] ∧
      result = answer.mapError (WriteFailure.mk path) := by
  obtain ⟨answer, rest, rfl, hend⟩ := exists_of_reaches_request h
  rw [hnext] at hend
  obtain ⟨rfl, rfl⟩ := hend
  exact ⟨answer, rfl, rfl⟩

lemma exists_of_reaches_writeTo {b : ServiceBundle} {path : String} {calls : List Call}
    {result : Except WriteFailure Unit} (h : Reaches (b.writeTo path) calls result) :
    ∃ (found : Bool) (answer : Except String Unit),
      calls = [⟨.exists path, found⟩, ⟨.write path b.toText, answer⟩] ∧
      result = answer.mapError (WriteFailure.mk path) := by
  unfold ServiceBundle.writeTo at h
  obtain ⟨found, rest, rfl, hrest⟩ := exists_of_reaches_request h
  have hwrite : ∃ answer : Except String Unit, rest = [⟨.write path b.toText, answer⟩] ∧
      result = answer.mapError (WriteFailure.mk path) := by
    cases found with
    | true =>
      -- the message about a file that is replaced makes no call
      obtain ⟨_, silent, later, ⟨rfl, rfl⟩, hlater, rfl⟩ := exists_of_reaches_bind hrest
      exact exists_of_reaches_write (fun answer => by cases answer <;> rfl) hlater
    | false => exact exists_of_reaches_write (fun answer => by cases answer <;> rfl) hrest
  obtain ⟨answer, rfl, hresult⟩ := hwrite
  exact ⟨found, answer, rfl, hresult⟩

/-- Files are tested and written one after another, up to the first whose write is refused. -/
inductive WritesInOrder :
    List (String × String) → List Call → Except WriteFailure (List String) → Prop
  | done : WritesInOrder [] [] (.ok [])
  | refused (path text : String) (files : List (String × String)) (found : Bool) (reason : String) :
      WritesInOrder ((path, text) :: files)
        [⟨.exists path, found⟩, ⟨.write path text, .error reason⟩] (.error ⟨path, reason⟩)
  | written (path text : String) (found : Bool) {files : List (String × String)}
      {calls : List Call} {result : Except WriteFailure (List String)}
      (rest : WritesInOrder files calls result) :
      WritesInOrder ((path, text) :: files)
        (⟨.exists path, found⟩ :: ⟨.write path text, .ok ()⟩ :: calls) (result.map (path :: ·))

/-- The files that bundles are written to beside the names that are taken, with their texts. -/
def bundleFiles (directory : String) (taken : List String) (bs : List ServiceBundle) :
    List (String × String) :=
  ((bundleNames taken bs).map (Path.join directory)).zip (bs.map (·.toText))

lemma writesInOrder_of_reaches {directory : String} {taken : List String}
    {bs : List ServiceBundle} {calls : List Call} {result : Except WriteFailure (List String)}
    (h : Reaches (writeBeside directory taken bs) calls result) :
    WritesInOrder (bundleFiles directory taken bs) calls result := by
  induction bs generalizing taken calls result with
  | nil =>
    obtain ⟨rfl, rfl⟩ := h
    exact .done
  | cons b bs ih =>
    have hfiles : bundleFiles directory taken (b :: bs) =
        (Path.join directory (b.freeName taken), b.toText) ::
          bundleFiles directory (b.freeName taken :: taken) bs := rfl
    rw [hfiles]
    unfold ServiceBundle.writeBeside at h
    obtain ⟨name, silent, later, hname, hlater, rfl⟩ := exists_of_reaches_bind h
    obtain ⟨rfl, rfl⟩ := value_of_reaches_ofLogged hname
    rw [value_chooseName] at hlater
    obtain ⟨written, first, rest, hfirst, hrest, rfl⟩ := exists_of_reaches_bind hlater
    obtain ⟨found, answer, rfl, rfl⟩ := exists_of_reaches_writeTo hfirst
    cases answer with
    | error reason =>
      obtain ⟨rfl, rfl⟩ := hrest
      exact .refused _ _ _ found reason
    | ok _ =>
      obtain ⟨outcome, others, nothing, hothers, hend, rfl⟩ := exists_of_reaches_bind hrest
      have hwritten := WritesInOrder.written (Path.join directory (b.freeName taken)) b.toText
        found (ih hothers)
      cases outcome with
      | error e =>
        obtain ⟨rfl, rfl⟩ := hend
        rw [List.append_nil]
        exact hwritten
      | ok paths =>
        obtain ⟨rfl, rfl⟩ := hend
        rw [List.append_nil]
        exact hwritten

/-- The requests that test and write files. -/
def requestsFor (files : List (String × String)) : List Request :=
  files.flatMap fun file => [.exists file.1, .write file.1 file.2]

/-! ### What a refusal leaves -/

section

variable {files : List (String × String)} {calls : List Call}
  {result : Except WriteFailure (List String)}

lemma WritesInOrder.attempted_prefix (h : WritesInOrder files calls result) :
    calls.filterMap Call.attempted? <+: files := by
  induction h with
  | done => exact List.prefix_refl []
  | refused path text files found reason => exact List.prefix_append [(path, text)] files
  | written path text found rest ih => exact List.cons_prefix_cons.mpr ⟨rfl, ih⟩

lemma WritesInOrder.of_all_written (h : WritesInOrder files calls result)
    (hwritten : ∀ answer ∈ calls.filterMap Call.writeAnswer?, answer = .ok ()) :
    calls.filterMap Call.attempted? = files ∧ result = .ok (files.map (·.1)) := by
  induction h with
  | done => exact ⟨rfl, rfl⟩
  | refused path text files found reason =>
    have hrefused : Except.error reason = .ok () := hwritten _ List.mem_cons_self
    cases hrefused
  | written path text found rest ih =>
    obtain ⟨hattempted, hresult⟩ := ih fun answer hanswer =>
      hwritten answer (List.mem_cons_of_mem _ hanswer)
    refine ⟨congrArg (List.cons _) hattempted, ?_⟩
    rw [hresult]
    rfl

lemma WritesInOrder.of_refused (h : WritesInOrder files calls result) {k : Nat} {reason : String}
    (hrefused : (calls.filterMap Call.writeAnswer?)[k]? = some (.error reason)) :
    ∃ path text, files[k]? = some (path, text) ∧ result = .error ⟨path, reason⟩ ∧
      calls.filterMap Call.written? = files.take k ∧
      calls.map (·.request) = requestsFor (files.take (k + 1)) := by
  induction h generalizing k with
  | done => cases hrefused
  | refused path text files found reason' =>
    cases k with
    | zero =>
      cases hrefused
      exact ⟨path, text, rfl, rfl, rfl, rfl⟩
    | succ k => cases hrefused
  | written path text found rest ih =>
    cases k with
    | zero => cases hrefused
    | succ k =>
      obtain ⟨path', text', hfile, hresult, hwritten, hrequests⟩ := ih hrefused
      refine ⟨path', text', hfile, ?_, congrArg (List.cons _) hwritten, ?_⟩
      · rw [hresult]
        rfl
      · rw [List.map_cons, List.map_cons, hrequests]
        rfl

end

/-- Writing bundles attempts a beginning of the files that the bundles determine, and all of them if
every write succeeds. If a write is refused, the run fails with the path of that file; the files
before it are written, and it was the last to be tested or written. -/
theorem writeAll_stops_at_refusal {σ : Type} {fs : FileSystem σ} (hfs : fs.Answers)
    (directory : String) (bs : List ServiceBundle) (s : σ) :
    let files := bundleFiles directory [] bs
    let calls := callsOf fs (writeAll directory bs) s
    files.map (·.2) = bs.map (·.toText) ∧
      ∃ result s' log, (writeAll directory bs).run fs s = ⟨.ok result, s', log⟩ ∧
        calls.filterMap Call.attempted? <+: files ∧
        ((∀ answer ∈ calls.filterMap Call.writeAnswer?, answer = .ok ()) →
          calls.filterMap Call.attempted? = files ∧ result = .ok (files.map (·.1))) ∧
        ∀ k reason, (calls.filterMap Call.writeAnswer?)[k]? = some (.error reason) →
          ∃ path text, files[k]? = some (path, text) ∧ result = .error ⟨path, reason⟩ ∧
            calls.filterMap Call.written? = files.take k ∧
            calls.map (·.request) = requestsFor (files.take (k + 1)) := by
  intro files calls
  have htexts : files.map (·.2) = bs.map (·.toText) := by
    apply List.map_snd_zip
    rw [List.length_map, List.length_map, length_bundleNames]
  obtain ⟨result, s', log, hrun, hreached⟩ := exists_reached hfs (writeAll directory bs) s
  have hcourse : WritesInOrder files calls result := writesInOrder_of_reaches hreached
  exact ⟨htexts, result, s', log, hrun, hcourse.attempted_prefix, hcourse.of_all_written,
    fun k reason hrefused => hcourse.of_refused hrefused⟩

/-- The third of the bundles cannot be written. -/
def refusingTable : FileTable := ⟨.ok [], [], [("out/A_B.d.2.bundle.yaml", "denied")]⟩

theorem writeAll_stops_at_refusal_refusingTable :
    FileTable.fileSystem.Answers ∧
      ∃ t log, (writeAll "out" collidingBundles).run FileTable.fileSystem refusingTable =
          ⟨.ok (.error ⟨"out/A_B.d.2.bundle.yaml", "denied"⟩), t, log⟩ ∧
        (callsOf FileTable.fileSystem (writeAll "out" collidingBundles) refusingTable).filterMap
          Call.written? = (bundleFiles "out" [] collidingBundles).take 2 := by
  have hanswers := FileTable.fileSystem_answers
  have hrefused : ((callsOf FileTable.fileSystem (writeAll "out" collidingBundles)
      refusingTable).filterMap Call.writeAnswer?)[2]? = some (.error "denied") := by
    decide +kernel
  have hpath : (bundleFiles "out" [] collidingBundles)[2]?.map (·.1) =
      some "out/A_B.d.2.bundle.yaml" := by
    decide +kernel
  obtain ⟨-, result, t, log, hrun, -, -, hstops⟩ :=
    writeAll_stops_at_refusal hanswers "out" collidingBundles refusingTable
  obtain ⟨path, text, hfile, hresult, hwritten, -⟩ := hstops 2 "denied" hrefused
  rw [hfile, Option.map_some, Option.some.injEq] at hpath
  dsimp only at hpath
  rw [hresult, hpath] at hrun
  exact ⟨hanswers, t, log, hrun, hwritten⟩

end ServiceLinker.Proofs
