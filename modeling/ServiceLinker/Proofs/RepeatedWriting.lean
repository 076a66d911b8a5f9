import ServiceLinker.Proofs.BundleWriting
import ServiceLinker.Proofs.TreeWriting

/-!
# Writing bundles to a tree twice

The names of bundle files depend on the bundles only, and no two files of a run share a name. So a
tree holds all texts of a run when the run has ended, and another run finds them there.
-/

namespace ServiceLinker.Proofs

open ServiceBundle (writeBeside)
open ServiceLinker.Tree (writeContent)

/-! ### One bundle -/

section

variable {t t' : Tree} {here : List String} {b : ServiceBundle} {path : String}

lemma answer_exists (here : List String) (path : String) (t : Tree) :
    (Tree.fileSystem here).answer (.exists path) t = (.ok (Tree.hasPath t path here), t) :=
  rfl

lemma run_writeTo_tree (here : List String) (b : ServiceBundle) (path : String) (t : Tree) :
    ∃ log, (b.writeTo path).run (Tree.fileSystem here) t =
      ⟨.ok ((writeContent t path (.text b.toText) here).1.mapError fun e => ⟨path, e.message⟩),
        (writeContent t path (.text b.toText) here).2, log⟩ := by
  have hexists := answer_exists here path t
  have hwrite : (Script.write path b.toText).run (Tree.fileSystem here) t =
      ⟨.ok (Tree.worded (writeContent t path (.text b.toText) here).1),
        (writeContent t path (.text b.toText) here).2, []⟩ := rfl
  generalize writeContent t path (.text b.toText) here = written at hwrite ⊢
  unfold ServiceBundle.writeTo Script.exists?
  rw [run_bind_ok (run_request_ok hexists)]
  dsimp only
  split_ifs
  · rw [run_bind_ok (run_log ..), run_bind_ok hwrite]
    obtain ⟨e | ⟨⟩, u⟩ := written <;> exact ⟨_, rfl⟩
  · rw [run_bind_ok hwrite]
    obtain ⟨e | ⟨⟩, u⟩ := written <;> exact ⟨_, rfl⟩

lemma run_writeTo_of_written (h : writeContent t path (.text b.toText) here = (.ok (), t')) :
    ∃ log, (b.writeTo path).run (Tree.fileSystem here) t = ⟨.ok (.ok ()), t', log⟩ := by
  obtain ⟨log, hrun⟩ := run_writeTo_tree here b path t
  rw [h] at hrun
  exact ⟨log, hrun⟩

lemma written_of_run_writeTo {log : List LogEntry}
    (h : (b.writeTo path).run (Tree.fileSystem here) t = ⟨.ok (.ok ()), t', log⟩) :
    writeContent t path (.text b.toText) here = (.ok (), t') := by
  obtain ⟨log', hrun⟩ := run_writeTo_tree here b path t
  rcases hwrite : writeContent t path (.text b.toText) here with ⟨e | ⟨⟩, u⟩
  · rw [h, hwrite] at hrun
    cases hrun
  · rw [h, hwrite] at hrun
    cases hrun
    rfl

/-- What a script writes from a working directory, with the paths. -/
def writtenBy {α : Type} (here : List String) (x : Script α) (t : Tree) : List (String × String) :=
  (callsOf (Tree.fileSystem here) x t).filterMap Call.written?

lemma writtenBy_bind {α β : Type} {x : Script α} {a : α} {log : List LogEntry}
    (h : x.run (Tree.fileSystem here) t = ⟨.ok a, t', log⟩) (f : α → Script β) :
    writtenBy here (x >>= f) t = writtenBy here x t ++ writtenBy here (f a) t' := by
  rw [writtenBy, callsOf_bind h, List.filterMap_append]
  rfl

lemma writtenBy_writeTo (h : writeContent t path (.text b.toText) here = (.ok (), t')) :
    writtenBy here (b.writeTo path) t = [(path, b.toText)] := by
  have hexists := answer_exists here path t
  have hanswer : (Tree.fileSystem here).answer (.write path b.toText) t = (.ok (.ok ()), t') := by
    change (Except.ok (Tree.worded (writeContent t path (.text b.toText) here).1),
      (writeContent t path (.text b.toText) here).2) = _
    rw [h]
    rfl
  have htest : writtenBy here (Script.request (.exists path)) t = [] := by
    rw [writtenBy, callsOf_request_ok hexists]
    rfl
  have hwrite : writtenBy here (Script.request (.write path b.toText)) t = [(path, b.toText)] := by
    rw [writtenBy, callsOf_request_ok hanswer]
    rfl
  unfold ServiceBundle.writeTo Script.exists? Script.write
  rw [writtenBy_bind (run_request_ok hexists), htest]
  dsimp only
  split_ifs
  · rw [writtenBy_bind (run_log ..), writtenBy_bind (run_request_ok hanswer), hwrite]
    rfl
  · rw [writtenBy_bind (run_request_ok hanswer), hwrite]
    rfl

end

/-! ### The bundles of a run -/

section

variable {t t' : Tree} {here : List String} {directory : String} {taken : List String}
  {b : ServiceBundle} {bs : List ServiceBundle} {paths : List String} {log : List LogEntry}

/-- A run that writes every bundle writes the first one, and then the others beside its name. -/
lemma exists_of_run_writeBeside
    (h : (writeBeside directory taken (b :: bs)).run (Tree.fileSystem here) t =
      ⟨.ok (.ok paths), t', log⟩) :
    ∃ u rest log', writeContent t (Path.join directory (b.freeName taken)) (.text b.toText) here =
        (.ok (), u) ∧
      (writeBeside directory (b.freeName taken :: taken) bs).run (Tree.fileSystem here) u =
        ⟨.ok (.ok rest), t', log'⟩ ∧
      paths = Path.join directory (b.freeName taken) :: rest := by
  unfold ServiceBundle.writeBeside at h
  obtain ⟨log₀, hchoose⟩ := run_chooseName (Tree.fileSystem here) b taken t
  obtain ⟨name, t₁, log₁, log₂, hname, h, -⟩ := exists_of_run_bind h
  rw [hchoose] at hname
  cases hname
  obtain ⟨written, u, log₃, log₄, hwrite, h, -⟩ := exists_of_run_bind h
  cases written with
  | error e => cases h
  | ok _ =>
    obtain ⟨outcome, u', log₅, log₆, hrest, h, -⟩ := exists_of_run_bind h
    cases outcome with
    | error e => cases h
    | ok rest =>
      cases h
      exact ⟨u, rest, log₅, written_of_run_writeTo hwrite, hrest, rfl⟩

lemma run_writeBeside_cons {u : Tree} {rest : List String}
    (hwrite : writeContent t (Path.join directory (b.freeName taken)) (.text b.toText) here =
      (.ok (), u))
    (hrest : (writeBeside directory (b.freeName taken :: taken) bs).run (Tree.fileSystem here) u =
      ⟨.ok (.ok rest), t', log⟩) :
    (∃ log', (writeBeside directory taken (b :: bs)).run (Tree.fileSystem here) t =
      ⟨.ok (.ok (Path.join directory (b.freeName taken) :: rest)), t', log'⟩) ∧
      writtenBy here (writeBeside directory taken (b :: bs)) t =
        (Path.join directory (b.freeName taken), b.toText) ::
          writtenBy here (writeBeside directory (b.freeName taken :: taken) bs) u := by
  obtain ⟨log₀, hchoose⟩ := run_chooseName (Tree.fileSystem here) b taken t
  obtain ⟨log₁, hrun⟩ := run_writeTo_of_written hwrite
  rw [ServiceBundle.writeBeside]
  refine ⟨?_, ?_⟩
  · rw [run_bind_ok hchoose]
    dsimp only
    rw [run_bind_ok hrun]
    dsimp only
    rw [run_bind_ok hrest]
    exact ⟨_, rfl⟩
  · have hsilent : writtenBy here (Script.ofLogged (b.chooseName taken)) t = [] := by
      rw [writtenBy, callsOf_ofLogged]
      rfl
    rw [writtenBy_bind hchoose, hsilent]
    dsimp only
    rw [writtenBy_bind hrun, writtenBy_writeTo hwrite]
    dsimp only
    rw [writtenBy_bind hrest]
    exact congrArg (List.cons _) (List.append_nil _)

/-- The text of a bundle stands under its name. -/
def IsStored (t : Tree) (here : List String) (directory name : String) (b : ServiceBundle) : Prop :=
  ∃ above, Stored t (Path.join directory name) here (above ++ [name]) (.text b.toText)

/-- What a run has written is there when the run has ended. The induction follows the names that
are taken: no later write reaches a file that has one of them. -/
theorem writeBeside_ok (ht : Plain t)
    (h : (writeBeside directory taken bs).run (Tree.fileSystem here) t =
      ⟨.ok (.ok paths), t', log⟩) :
    Plain t' ∧ Grows (fun place => ∃ name ∈ bundleNames taken bs, EndsIn name place) t t' ∧
      List.Forall₂ (IsStored t' here directory) (bundleNames taken bs) bs ∧
      paths = (bundleNames taken bs).map (Path.join directory) ∧
      writtenBy here (writeBeside directory taken bs) t = paths.zip (bs.map (·.toText)) := by
  induction bs generalizing taken t paths log with
  | nil =>
    cases h
    exact ⟨ht, .refl _ _, .nil, rfl, rfl⟩
  | cons b bs ih =>
    obtain ⟨u, rest, log', hwrite, hrest, rfl⟩ := exists_of_run_writeBeside h
    obtain ⟨hu, hgrows, above, hstored⟩ :=
      writeContent_ok ht (isFileName_freeName taken b) hwrite
    obtain ⟨ht', hgrows', hothers, hpaths, hwritten⟩ := ih hu hrest
    have hapart : ¬∃ name ∈ bundleNames (b.freeName taken :: taken) bs,
        EndsIn name (above ++ [b.freeName taken]) := by
      rintro ⟨name, hname, hends⟩
      rw [endsIn_concat_iff.mp hends] at hname
      exact notMem_of_mem_bundleNames hname List.mem_cons_self
    refine ⟨ht', ?_, ?_, ?_, ?_⟩
    · refine (hgrows.mono ?_).trans (hgrows'.mono ?_)
      · exact fun place hends => ⟨_, List.mem_cons_self, hends⟩
      · exact fun place ⟨name, hname, hends⟩ => ⟨name, List.mem_cons_of_mem _ hname, hends⟩
    · exact .cons ⟨above, hstored.grow hu ht' hgrows' hapart⟩ hothers
    · rw [hpaths]
      rfl
    · rw [(run_writeBeside_cons hwrite hrest).2, hwritten]
      rfl

/-- Where all texts are stored, another run writes them and changes nothing. -/
theorem writeBeside_again (ht : Plain t)
    (h : List.Forall₂ (IsStored t here directory) (bundleNames taken bs) bs) :
    ∃ log, (writeBeside directory taken bs).run (Tree.fileSystem here) t =
      ⟨.ok (.ok ((bundleNames taken bs).map (Path.join directory))), t, log⟩ := by
  induction bs generalizing taken with
  | nil => exact ⟨[], rfl⟩
  | cons b bs ih =>
    cases h with
    | cons hfirst hothers =>
      obtain ⟨above, hstored⟩ := hfirst
      obtain ⟨log, hrest⟩ := ih hothers
      exact (run_writeBeside_cons
        (writeContent_of_stored ht (isFileName_freeName taken b) hstored) hrest).1

end

end ServiceLinker.Proofs
