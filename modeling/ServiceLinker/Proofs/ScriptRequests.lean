import ServiceLinker.Bundle.Collection
import ServiceLinker.FileSystem.Tree
import ServiceLinker.Linkage.Basic
import ServiceLinker.Proofs.ScriptRuns

/-!
# The requests of a script

Some scripts make requests of one kind only, whatever they are answered. Where such requests keep
the state and are answered alike in two states, the script comes to the same end in both. Other
scripts make certain requests one after another, whatever they are answered, and at most end early.
-/

namespace ServiceLinker.Proofs

variable {σ α β : Type} {S : Request → Prop}

/-- Whatever it is answered, the script makes only requests in `S`. -/
def Asks (S : Request → Prop) : Script α → Prop
  | .done _ => True
  | .ask r next => S r ∧ ∀ a, Asks S (next a)
  | .note _ next => Asks S next

lemma asks_pure (a : α) : Asks S (pure a : Script α) := trivial

lemma asks_request {r : Request} (h : S r) : Asks S (Script.request r) := ⟨h, fun _ => trivial⟩

lemma asks_log (level : Level) (message : String) : Asks S (Script.log level message) := trivial

lemma asks_mono {S' : Request → Prop} (h : ∀ r, S r → S' r) {x : Script α} (hx : Asks S x) :
    Asks S' x := by
  induction x with
  | done a => trivial
  | ask r next ih => exact ⟨h r hx.1, fun a => ih a (hx.2 a)⟩
  | note e next ih => exact ih hx

lemma asks_bind {x : Script α} {f : α → Script β} (hx : Asks S x) (hf : ∀ a, Asks S (f a)) :
    Asks S (x >>= f) := by
  induction x with
  | done a => exact hf a
  | ask r next ih => exact ⟨hx.1, fun a => ih a (hx.2 a)⟩
  | note e next ih => exact ih hx

lemma asks_ofLogged (x : Logged α) : Asks S (Script.ofLogged x) := by
  unfold Script.ofLogged
  induction x.log with
  | nil => trivial
  | cons e es ih => exact ih

lemma asks_traverse {f : α → Script β} {as : List α} (h : ∀ a ∈ as, Asks S (f a)) :
    Asks S (Script.traverse f as) := by
  induction as with
  | nil => trivial
  | cons a as ih =>
    unfold Script.traverse
    refine asks_bind (h a List.mem_cons_self) fun b => ?_
    exact asks_bind (ih fun a' ha' => h a' (List.mem_cons_of_mem a ha')) fun bs => asks_pure _

/-- A script whose requests keep two states and are answered alike in them comes to the same end
in both. -/
theorem run_of_asks {fs : FileSystem σ} {s s' : σ}
    (h : ∀ r, S r → ∃ a, fs.answer r s = (.ok a, s) ∧ fs.answer r s' = (.ok a, s'))
    {x : Script α} (hx : Asks S x) :
    ∃ a log, x.run fs s = ⟨.ok a, s, log⟩ ∧ x.run fs s' = ⟨.ok a, s', log⟩ := by
  induction x with
  | done a => exact ⟨a, [], rfl, rfl⟩
  | ask r next ih =>
    obtain ⟨a, hanswer, hanswer'⟩ := h r hx.1
    obtain ⟨b, log, hrun, hrun'⟩ := ih a (hx.2 a)
    refine ⟨b, log, ?_, ?_⟩
    · rw [Script.run, hanswer]
      exact hrun
    · rw [Script.run, hanswer']
      exact hrun'
  | note e next ih =>
    obtain ⟨a, log, hrun, hrun'⟩ := ih hx
    refine ⟨a, e :: log, ?_, ?_⟩
    · rw [Script.run, hrun]
    · rw [Script.run, hrun']

/-- The calls of a script whose requests keep the state are answered as the state answers them. -/
lemma answer_of_mem_callsOf {fs : FileSystem σ} {s : σ}
    (h : ∀ r, S r → ∃ a, fs.answer r s = (.ok a, s)) {x : Script α} (hx : Asks S x) {call : Call}
    (hcall : call ∈ callsOf fs x s) : fs.answer call.request s = (.ok call.answer, s) := by
  induction x with
  | done a => exact absurd hcall List.not_mem_nil
  | ask r next ih =>
    obtain ⟨a, hanswer⟩ := h r hx.1
    rw [callsOf_ask_ok hanswer] at hcall
    rcases List.mem_cons.mp hcall with rfl | hcall
    · exact hanswer
    · exact ih a (hx.2 a) hcall
  | note e next ih => exact ih hx hcall

/-! ### Requests in order -/

/-- Whatever it is answered, the script makes the requests of a list in their order, and `ends`
holds of those that are left and of the value where it comes to its end. -/
def Follows (ends : List Request → α → Prop) : List Request → Script α → Prop
  | rs, .done a => ends rs a
  | rs, .ask r next => ∃ rest, rs = r :: rest ∧ ∀ a, Follows ends rest (next a)
  | rs, .note _ next => Follows ends rs next

section

variable {ends : List Request → α → Prop} {ends' : List Request → β → Prop} {rs : List Request}

lemma follows_request (r : Request) (rest : List Request) :
    Follows (fun left _ => left = rest) (r :: rest) (Script.request r) :=
  ⟨rest, rfl, fun _ => rfl⟩

lemma follows_bind {x : Script α} {f : α → Script β} (hx : Follows ends rs x)
    (hf : ∀ left a, ends left a → Follows ends' left (f a)) : Follows ends' rs (x >>= f) := by
  induction x generalizing rs with
  | done a => exact hf rs a hx
  | ask r next ih =>
    obtain ⟨rest, hrest, hnext⟩ := hx
    exact ⟨rest, hrest, fun a => ih a (hnext a)⟩
  | note e next ih => exact ih hx

lemma follows_log (level : Level) (message : String) (rest : List Request) :
    Follows (fun left _ => left = rest) rest (Script.log level message) := rfl

lemma follows_ofLogged (x : Logged α) (rest : List Request) :
    Follows (fun left a => left = rest ∧ a = x.value) rest (Script.ofLogged x) := by
  unfold Script.ofLogged
  induction x.log with
  | nil => exact ⟨rfl, rfl⟩
  | cons e es ih => exact ih

/-- No other requests are made than those that are followed. -/
lemma asks_of_follows {x : Script α} (h : Follows ends rs x) : Asks (· ∈ rs) x := by
  induction x generalizing rs with
  | done a => trivial
  | ask r next ih =>
    obtain ⟨rest, rfl, hnext⟩ := h
    refine ⟨List.mem_cons_self, fun a => ?_⟩
    exact asks_mono (fun _ => List.mem_cons_of_mem r) (ih a (hnext a))
  | note e next ih => exact ih h

/-- A run makes the first of the requests that are followed. -/
lemma calls_of_follows (fs : FileSystem σ) {x : Script α} (h : Follows ends rs x) (s : σ) :
    ∃ left, (callsOf fs x s).map (·.request) ++ left = rs ∧
      ∀ a, (x.run fs s).result = .ok a → ends left a := by
  induction x generalizing rs s with
  | done a =>
    refine ⟨rs, rfl, ?_⟩
    intro a' ha
    cases ha
    exact h
  | ask r next ih =>
    obtain ⟨rest, rfl, hnext⟩ := h
    rcases hanswer : fs.answer r s with ⟨e | a, s'⟩
    · refine ⟨r :: rest, ?_, ?_⟩
      · rw [callsOf_ask_error hanswer]
        rfl
      · intro a ha
        rw [Script.run, hanswer] at ha
        cases ha
    · obtain ⟨left, hleft, hend⟩ := ih a (hnext a) s'
      refine ⟨left, ?_, ?_⟩
      · rw [callsOf_ask_ok hanswer, List.map_cons, List.cons_append, hleft]
      · intro b hb
        rw [Script.run, hanswer] at hb
        exact hend b hb
  | note e next ih => exact ih h s

end

/-! ### Requests of the linker -/

/-- The request writes nothing. -/
def OnlyReads : Request → Prop
  | .write _ _ => False
  | _ => True

/-- A tree stays as it is where nothing is written. -/
lemma answer_of_onlyReads {r : Request} (hr : OnlyReads r) (here : List String) (t : Tree) :
    (Tree.fileSystem here).answer r t = (.ok (Tree.answer here r t).1, t) := by
  cases r with
  | write path text => exact absurd hr id
  | walkFiles root => rfl
  | readText path => rfl
  | «exists» path => rfl

lemma asks_load (candidate : Role × String) :
    Asks OnlyReads (SourceIndex.load candidate) := by
  unfold SourceIndex.load Script.readText
  refine asks_bind (asks_request trivial) fun answer => ?_
  cases answer with
  | ok content => exact asks_pure _
  | error reason => exact asks_bind (asks_log _ _) fun _ => asks_pure _

/-- Linking a tree writes nothing. -/
lemma asks_linkTree (root : String) (c : Config) :
    Asks OnlyReads (linkTree root c) := by
  have hbuild : Asks OnlyReads (SourceIndex.build root c) := by
    unfold SourceIndex.build Script.walkFiles
    refine asks_bind (asks_request trivial) fun answer => ?_
    cases answer with
    | error reason => exact asks_pure _
    | ok paths =>
      refine asks_bind (asks_traverse fun candidate _ => asks_load candidate) fun entries => ?_
      exact asks_bind (asks_log _ _) fun _ => asks_pure _
  unfold linkTree
  refine asks_bind hbuild fun built => ?_
  cases built with
  | error e => exact asks_pure _
  | ok built => exact asks_bind (asks_ofLogged _) fun report => asks_pure _

lemma asks_loadArtifact {path : String} (h : S (.readText path)) :
    Asks S (Artifact.load path) := by
  unfold Artifact.load Script.readText
  refine asks_bind (asks_request h) fun answer => ?_
  cases answer with
  | error reason => exact asks_pure _
  | ok content =>
    dsimp only
    split_ifs <;> exact asks_pure _

lemma asks_loadBundle {r : LinkedService} {implementation interface : String}
    (hdescriptor : S (.readText r.descriptorPath)) (himplementation : S (.readText implementation))
    (hinterface : S (.readText interface)) : Asks S (r.loadBundle implementation interface) := by
  unfold LinkedService.loadBundle
  refine asks_bind (asks_loadArtifact hdescriptor) fun descriptor => ?_
  cases descriptor with
  | error e => exact asks_pure _
  | ok descriptor =>
    refine asks_bind (asks_loadArtifact himplementation) fun implementation => ?_
    cases implementation with
    | error e => exact asks_pure _
    | ok implementation =>
      refine asks_bind (asks_loadArtifact hinterface) fun interface => ?_
      cases interface <;> exact asks_pure _

/-- Bundling reads the files that the resolved records name. -/
lemma asks_bundleResolved {report : LinkReport}
    (h : ∀ r ∈ report.resolved, S (.readText r.descriptorPath) ∧
      (∀ path, r.implementationPath = some path → S (.readText path)) ∧
      ∀ path, r.interfacePath = some path → S (.readText path)) :
    Asks S report.bundleResolved := by
  have hbundle : ∀ r ∈ report.resolved, Asks S r.bundle := by
    intro r hr
    obtain ⟨hdescriptor, himplementation, hinterface⟩ := h r hr
    unfold LinkedService.bundle
    split
    · next implementation interface himp hint =>
      exact asks_loadBundle hdescriptor (himplementation _ himp) (hinterface _ hint)
    · exact asks_pure _
  unfold LinkReport.bundleResolved
  refine asks_bind (asks_traverse fun r hr => ?_) fun results => asks_pure _
  unfold LinkedService.bundleOrDiagnostic
  refine asks_bind (hbundle r hr) fun outcome => ?_
  cases outcome with
  | ok b => exact asks_pure _
  | error e => exact asks_bind (asks_log _ _) fun _ => asks_pure _

end ServiceLinker.Proofs
