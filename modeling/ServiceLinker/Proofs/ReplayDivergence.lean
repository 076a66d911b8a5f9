import Mathlib
import ServiceLinker.Cassette.Replay
import ServiceLinker.Proofs.ReplayStreams

/-!
# Divergence of a replay

A replay goes on as long as every call finds an interaction of its method that earlier calls have
left. The first call that finds none ends it: no later call is served. A recorded output that does
not fit its call ends nothing. It becomes a failure of the call, and where the call has no way to
fail the caller breaks off while the replay goes on.
-/

namespace ServiceLinker.Proofs

/-- The replay that a sequence of calls leaves, whatever came of each of them. -/
def behind (p : Replay) (calls : List Request) : Replay :=
  calls.foldl (fun p r => (Replay.fileSystem.answer r p).2) p

/-- The interactions that a request is served from. -/
def queueOf (c : Cassette) (r : Request) : List Interaction :=
  stream c.interactions (Request.port, r.method)

/-- How many of the calls go to the stream that the request goes to. -/
def askedBy (calls : List Request) (r : Request) : Nat :=
  (calls.map Request.method).count r.method

/-- No call of the sequence came when its stream was absent or used up. -/
def Supplied (c : Cassette) (calls : List Request) : Prop :=
  ∀ before r after, calls = before ++ r :: after → askedBy before r < (queueOf c r).length

lemma behind_concat (p : Replay) (calls : List Request) (r : Request) :
    behind p (calls ++ [r]) = (Replay.fileSystem.answer r (behind p calls)).2 := by
  simp [behind]

lemma askedBy_concat_self (calls : List Request) {r s : Request} (h : r.method = s.method) :
    askedBy (calls ++ [r]) s = askedBy calls s + 1 := by
  simp [askedBy, h]

lemma askedBy_concat_of_ne (calls : List Request) {r s : Request} (h : r.method ≠ s.method) :
    askedBy (calls ++ [r]) s = askedBy calls s := by
  simp [askedBy, h]

lemma supplied_nil (c : Cassette) : Supplied c [] := by
  intro before r after h
  simp at h

lemma supplied_concat_iff (c : Cassette) (calls : List Request) (r : Request) :
    Supplied c (calls ++ [r]) ↔
      Supplied c calls ∧ askedBy calls r < (queueOf c r).length := by
  constructor
  · intro h
    refine ⟨?_, h calls r [] rfl⟩
    intro before s after hcalls
    apply h before s (after ++ [r])
    simp [hcalls]
  · rintro ⟨hcalls, hr⟩ before s after h
    rcases List.eq_nil_or_concat after with rfl | ⟨after, last, rfl⟩
    · obtain ⟨rfl, rfl⟩ := by simpa using h
      exact hr
    · rw [List.concat_eq_append, ← List.cons_append, ← List.append_assoc] at h
      exact hcalls before s after (List.append_inj' h rfl).1

/-! ### One call -/

/-- Every call so far was served, and each stream has lost as many interactions as were asked of
it. -/
structure Serving (c : Cassette) (calls : List Request) (p : Replay) : Prop where
  diverged_eq : p.diverged = false
  pairs_eq : p.replayer.pairs = (Replayer.ofCassette c).pairs
  stream_eq : ∀ r : Request, stream p.replayer.pending (Request.port, r.method) =
    (queueOf c r).drop (askedBy calls r)
  remaining_eq : p.remaining + calls.length = c.interactions.length

lemma serving_ofCassette (c : Cassette) : Serving c [] (.ofCassette c) where
  diverged_eq := rfl
  pairs_eq := rfl
  stream_eq _ := rfl
  remaining_eq := rfl

lemma Serving.concat {c : Cassette} {calls : List Request} {p : Replay} (h : Serving c calls p)
    {r : Request} {x : Interaction} {next : Replayer}
    (hx : Serves p.replayer (Request.port, r.method) x next) :
    Serving c (calls ++ [r]) ⟨next, false⟩ where
  diverged_eq := rfl
  pairs_eq := hx.pairs_eq.trans h.pairs_eq
  stream_eq s := by
    by_cases hs : r.method = s.method
    · have hself := hx.stream_self
      rw [hs, h.stream_eq s] at hself
      rw [askedBy_concat_self calls hs, ← List.tail_drop, hself, List.tail_cons]
    · rw [askedBy_concat_of_ne calls hs, ← h.stream_eq s]
      apply hx.stream_other
      simpa using Ne.symm hs
  remaining_eq := by
    have hlost := hx.remaining_eq
    have hleft := h.remaining_eq
    simp only [Replay.remaining, List.length_append, List.length_singleton] at hleft ⊢
    omega

/-- A call takes the next interaction of its method, or there is none and the replay has
diverged. -/
lemma Serving.answer_cases {c : Cassette} {calls : List Request} {p : Replay}
    (h : Serving c calls p) (r : Request) :
    (∃ x p', (queueOf c r)[askedBy calls r]? = some x ∧
        Replay.fileSystem.answer r p = (Replay.decode r x.output, p') ∧
        Serving c (calls ++ [r]) p') ∨
      (queueOf c r)[askedBy calls r]? = none ∧
        Replay.fileSystem.answer r p =
          (.error (exhausted p.replayer (Request.port, r.method)), ⟨p.replayer, true⟩) := by
  have hhead : (queueOf c r)[askedBy calls r]? =
      (stream p.replayer.pending (Request.port, r.method)).head? := by
    rw [h.stream_eq r, List.head?_drop]
  have hd := h.diverged_eq
  rcases next_cases p.replayer (Request.port, r.method) with
    ⟨x, next, hnext, hserves⟩ | ⟨hempty, hnext⟩
  · left
    refine ⟨x, ⟨next, false⟩, ?_, ?_, h.concat hserves⟩
    · rw [hhead, hserves.stream_self, List.head?_cons]
    · simp [Replay.fileSystem, Replay.nextOutput, hd, hnext]
  · right
    refine ⟨?_, ?_⟩
    · rw [hhead, hempty, List.head?_nil]
    · simp [Replay.fileSystem, Replay.nextOutput, hd, hnext]

lemma answer_of_diverged {p : Replay} (hp : p.diverged = true) (r : Request) :
    Replay.fileSystem.answer r p = (.error .diverged, p) := by
  simp [Replay.fileSystem, Replay.nextOutput, hp]

/-! ### Sequences of calls -/

lemma serving_behind {c : Cassette} {calls : List Request} (h : Supplied c calls) :
    Serving c calls (behind (.ofCassette c) calls) := by
  induction calls using List.reverseRecOn with
  | nil => exact serving_ofCassette c
  | append_singleton calls r ih =>
    obtain ⟨hcalls, hr⟩ := (supplied_concat_iff c calls r).mp h
    rw [behind_concat]
    rcases (ih hcalls).answer_cases r with ⟨x, p', -, hanswer, hserving⟩ | ⟨hnone, -⟩
    · rw [hanswer]
      exact hserving
    · rw [List.getElem?_eq_none_iff] at hnone
      omega

lemma diverged_behind {c : Cassette} {calls : List Request} (h : ¬ Supplied c calls) :
    (behind (.ofCassette c) calls).diverged = true := by
  induction calls using List.reverseRecOn with
  | nil => exact absurd (supplied_nil c) h
  | append_singleton calls r ih =>
    rw [behind_concat]
    by_cases hcalls : Supplied c calls
    · have hr : ¬ askedBy calls r < (queueOf c r).length := fun hr =>
        h ((supplied_concat_iff c calls r).mpr ⟨hcalls, hr⟩)
      rcases (serving_behind hcalls).answer_cases r with ⟨x, p', hsome, -, -⟩ | ⟨-, hanswer⟩
      · exact absurd (List.getElem?_eq_some_iff.mp hsome).1 hr
      · rw [hanswer]
    · rw [answer_of_diverged (ih hcalls) r]
      exact ih hcalls

lemma exhausted_eq {c : Cassette} {q : Replayer} (hq : q.pairs = (Replayer.ofCassette c).pairs)
    (r : Request) :
    exhausted q (Request.port, r.method) =
      if queueOf c r = [] then
        .unrecorded Request.port r.method (Replayer.ofCassette c).available
      else .consumed Request.port r.method q.lastServed := by
  have hknown := mem_pairs_ofCassette c (Request.port, r.method)
  rw [exhausted, Replayer.available, hq, ← Replayer.available]
  by_cases hempty : queueOf c r = []
  · rw [if_pos hempty, if_neg]
    intro h
    exact hknown.mp (List.contains_iff_mem.mp h) hempty
  · rw [if_neg hempty, if_pos]
    exact List.contains_iff_mem.mpr (hknown.mpr hempty)

/-! ### Outputs of any shape -/

/-- The output is not a failure and stands for the value, under its key or by itself. -/
def StandsFor (output value : Json) : Prop :=
  output.field? "err" = none ∧ (output.field? "ok").getD output = value

/-- What a call gets for a recorded output. Only an existence test can break off. -/
def Gets : (r : Request) → Json → Except Halt r.Answer → Prop
  | .walkFiles _, output, reply =>
    ∃ a, reply = .ok a ∧ ∀ paths, a = .ok paths ↔ StandsFor output (.list (paths.map .text))
  | .readText _, output, reply =>
    ∃ a, reply = .ok a ∧ ∀ text, a = .ok text ↔ StandsFor output (.text text)
  | .write _ _, output, reply => ∃ a, reply = .ok a ∧ (a = .ok () ↔ output.field? "err" = none)
  | .exists _, output, reply =>
    (∃ b, output = .bool b ∧ reply = .ok b) ∨ (∀ b, output ≠ .bool b) ∧ reply = .error .notBoolean

lemma text?_eq_some_iff {v : Json} {s : String} : v.text? = some s ↔ v = .text s := by
  cases v <;> simp [Json.text?]

lemma texts?_eq_some_iff {v : Json} {texts : List String} :
    v.texts? = some texts ↔ v = .list (texts.map .text) := by
  have hitems : ∀ items : List Json,
      items.mapM Json.text? = some texts ↔ items = texts.map .text := by
    intro items
    induction items generalizing texts with
    | nil => simp [eq_comm]
    | cons item items ih =>
      cases texts <;> simp [List.mapM_cons, Option.bind_eq_some_iff, text?_eq_some_iff, ih]
  cases v with
  | list items => simp [Json.texts?, hitems]
  | _ => simp [Json.texts?]

lemma failure?_eq_none_iff {output : Json} :
    Replay.failure? output = none ↔ output.field? "err" = none := by
  simp [Replay.failure?, Interaction.failureKey]

lemma answerOf_eq_ok_iff {α : Type} {method expected : String} {read? : Json → Option α}
    {output : Json} {a : α} :
    Replay.answerOf method expected read? output = .ok a ↔
      output.field? "err" = none ∧ read? ((output.field? "ok").getD output) = some a := by
  rw [← failure?_eq_none_iff]
  unfold Replay.answerOf
  cases hfailure : Replay.failure? output with
  | some reason => simp
  | none =>
    simp only [Interaction.successKey, true_and]
    cases read? ((output.field? "ok").getD output) <;> simp

lemma gets_decode (r : Request) (output : Json) : Gets r output (Replay.decode r output) := by
  cases r with
  | walkFiles root =>
    refine ⟨_, rfl, ?_⟩
    intro paths
    rw [answerOf_eq_ok_iff, texts?_eq_some_iff, StandsFor]
  | readText path =>
    refine ⟨_, rfl, ?_⟩
    intro text
    rw [answerOf_eq_ok_iff, text?_eq_some_iff, StandsFor]
  | write path text =>
    refine ⟨_, rfl, ?_⟩
    rw [← failure?_eq_none_iff]
    cases Replay.failure? output <;> simp
  | «exists» path =>
    cases output with
    | bool b => exact .inl ⟨b, rfl, rfl⟩
    | _ => exact .inr ⟨by simp, rfl⟩

/-! ### Existence tests that broke off -/

/-- The interaction with `b` for its output, if it is an existence test without a truth value. -/
def settle (b : Bool) (x : Interaction) : Interaction :=
  if x.pair = (Request.port, "exists") ∧ x.output.bool? = none then { x with output := .bool b }
  else x

/-- The cassette on which every existence test has a truth value. -/
def settled (b : Bool) (c : Cassette) : Cassette :=
  { c with interactions := c.interactions.map (settle b) }

/-- The reply of a replay on which an existence test returns where it broke off. -/
def returning (b : Bool) : (r : Request) → Except Halt r.Answer → Except Halt r.Answer
  | .exists _, .error .notBoolean => .ok b
  | _, reply => reply

def settledReplayer (b : Bool) (q : Replayer) : Replayer :=
  { q with pending := q.pending.map (settle b) }

def settledReplay (b : Bool) (p : Replay) : Replay :=
  { p with replayer := settledReplayer b p.replayer }

@[simp] lemma pair_settle (b : Bool) (x : Interaction) : (settle b x).pair = x.pair := by
  unfold settle
  split_ifs <;> rfl

@[simp] lemma seq_settle (b : Bool) (x : Interaction) : (settle b x).seq = x.seq := by
  unfold settle
  split_ifs <;> rfl

lemma takeFirst?_settle (b : Bool) (pair : String × String) (xs : List Interaction) :
    Interaction.takeFirst? pair (xs.map (settle b)) =
      (Interaction.takeFirst? pair xs).map fun (x, rest) => (settle b x, rest.map (settle b)) := by
  induction xs with
  | nil => rfl
  | cons x xs ih =>
    by_cases hx : x.pair = pair
    · simp [Interaction.takeFirst?, hx]
    · simp [Interaction.takeFirst?, hx, ih, Function.comp_def]

lemma decode_settle (b : Bool) (r : Request) {x : Interaction}
    (hx : x.pair = (Request.port, r.method)) :
    Replay.decode r (settle b x).output = returning b r (Replay.decode r x.output) := by
  cases r with
  | «exists» path =>
    cases hb : x.output.bool? with
    | none =>
      have hsettle : (settle b x).output = .bool b := by
        rw [settle, if_pos ⟨hx, hb⟩]
      have hdecode : Replay.decode (.exists path) x.output = .error .notBoolean := by
        simp [Replay.decode, hb]
      rw [hsettle, hdecode]
      rfl
    | some v =>
      have hsettle : settle b x = x := by
        rw [settle, if_neg]
        simp [hb]
      simp [hsettle, Replay.decode, hb, returning]
  | _ =>
    have hsettle : settle b x = x := by
      rw [settle, if_neg]
      simp [hx, Request.method]
    rw [hsettle]
    rfl

lemma next_settledReplayer (b : Bool) (q : Replayer) (port method : String) :
    (settledReplayer b q).next port method =
      ((q.next port method).1.map (settle b), settledReplayer b (q.next port method).2) := by
  unfold Replayer.next
  simp only [settledReplayer, takeFirst?_settle]
  cases Interaction.takeFirst? (port, method) q.pending with
  | some taken => simp [Except.map]
  | none =>
    by_cases hknown : (port, method) ∈ q.pairs
    · simp [hknown, Except.map]
    · simp [hknown, Except.map, Replayer.available]

lemma Serves.pair_eq {q q' : Replayer} {pair : String × String} {x : Interaction}
    (h : Serves q pair x q') : x.pair = pair := by
  have hmem : x ∈ stream q.pending pair := by
    rw [h.stream_self]
    exact List.mem_cons_self
  simpa using (List.mem_filter.mp hmem).2

lemma answer_settledReplay (b : Bool) (r : Request) (p : Replay) :
    Replay.fileSystem.answer r (settledReplay b p) =
      (returning b r (Replay.fileSystem.answer r p).1,
        settledReplay b (Replay.fileSystem.answer r p).2) := by
  by_cases hp : p.diverged = true
  · have hreturning : returning b r (.error .diverged) = .error .diverged := by
      cases r <;> rfl
    rw [answer_of_diverged hp, answer_of_diverged (p := settledReplay b p) hp, hreturning]
  · have hnext := next_settledReplayer b p.replayer Request.port r.method
    rcases next_cases p.replayer (Request.port, r.method) with
      ⟨x, next, hserved, hserves⟩ | ⟨-, hserved⟩
    · simp only [hserved, Except.map] at hnext
      simp [Replay.fileSystem, Replay.nextOutput, settledReplay, hp, hserved, hnext,
        decode_settle b r hserves.pair_eq]
    · simp only [hserved, Except.map] at hnext
      have hreturning : returning b r (.error (exhausted p.replayer (Request.port, r.method))) =
          .error (exhausted p.replayer (Request.port, r.method)) := by
        unfold exhausted
        split_ifs <;> cases r <;> rfl
      simp [Replay.fileSystem, Replay.nextOutput, settledReplay, hp, hserved, hnext, hreturning]

lemma behind_settled (b : Bool) (c : Cassette) (calls : List Request) :
    behind (.ofCassette (settled b c)) calls = settledReplay b (behind (.ofCassette c) calls) := by
  induction calls using List.reverseRecOn with
  | nil =>
    simp [behind, Replay.ofCassette, settledReplay, settledReplayer, Replayer.ofCassette, settled,
      Function.comp_def]
  | append_singleton calls r ih => rw [behind_concat, behind_concat, ih, answer_settledReplay]

/-- The replay goes on up to the first call whose stream is absent or used up, and each call before
gets what the next interaction of its method stands for. From that call on nothing is served. An
existence test that breaks off has no such effect: every other call gets what it would get if the
test had returned. -/
theorem divergence_is_final (c : Cassette) (calls : List Request) (r : Request) :
    let p := behind (.ofCassette c) calls
    let reply := Replay.fileSystem.answer r p
    (Supplied c calls → p.remaining + calls.length = c.interactions.length ∧
      match (queueOf c r)[askedBy calls r]? with
      | some x => Supplied c (calls ++ [r]) ∧ Gets r x.output reply.1
      | none => ¬ Supplied c (calls ++ [r]) ∧ reply.2.remaining = p.remaining ∧
        reply.1 = .error (if queueOf c r = [] then
            .unrecorded Request.port r.method (Replayer.ofCassette c).available
          else .consumed Request.port r.method p.replayer.lastServed)) ∧
      (¬ Supplied c calls → ∃ halt, reply = (.error halt, p) ∧
        halt.message = "replayer lock poisoned: PoisonError \x7b .. \x7d") ∧
      ∀ b, Replay.fileSystem.answer r (behind (.ofCassette (settled b c)) calls) =
        (returning b r reply.1, settledReplay b reply.2) := by
  intro p reply
  refine ⟨?_, ?_, ?_⟩
  · intro hcalls
    have hserving := serving_behind hcalls
    refine ⟨hserving.remaining_eq, ?_⟩
    rcases hserving.answer_cases r with ⟨x, p', hsome, hanswer, -⟩ | ⟨hnone, hanswer⟩
    · have hreply : reply = (Replay.decode r x.output, p') := hanswer
      rw [hsome, hreply]
      refine ⟨?_, gets_decode r x.output⟩
      exact (supplied_concat_iff c calls r).mpr ⟨hcalls, (List.getElem?_eq_some_iff.mp hsome).1⟩
    · have hreply : reply = (.error (exhausted p.replayer (Request.port, r.method)),
          ⟨p.replayer, true⟩) := hanswer
      rw [hnone, hreply]
      refine ⟨?_, rfl, ?_⟩
      · intro h
        have hr := ((supplied_concat_iff c calls r).mp h).2
        rw [List.getElem?_eq_none_iff] at hnone
        omega
      · rw [exhausted_eq hserving.pairs_eq]
  · intro hcalls
    exact ⟨.diverged, answer_of_diverged (diverged_behind hcalls) r, rfl⟩
  · intro b
    rw [behind_settled, answer_settledReplay]

/-- The replay outlives an output that is no truth value, but not a call that was never made. -/
example :
    let call := fun seq method output => Interaction.mk seq "fs" method .null output
    let c : Cassette := ⟨"n", "", ⟨2024, 1, 1, 0, 0, 0, 0⟩, "r",
      [call 0 "exists" .null, call 1 "read_to_string" (.text "x"), call 2 "read_to_string" .null]⟩
    let reply := fun calls r => (Replay.fileSystem.answer r (behind (.ofCassette c) calls)).1
    reply [] (.exists "a") = .error .notBoolean ∧
      reply [.exists "a"] (.readText "b") = .ok (.ok "x") ∧
      reply [.exists "a", .readText "b", .walkFiles "r"] (.readText "b") = .error .diverged := by
  decide +kernel

end ServiceLinker.Proofs
