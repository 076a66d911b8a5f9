import Mathlib
import ServiceLinker.Cassette.Replayer

/-!
# Streams of recorded calls

A replayer serves each pair of port and method as a queue of its own, filled in the order of the
cassette. The calls that are still to be served stand in one list; what a call does to it is seen
through the streams of the pairs.
-/

namespace ServiceLinker.Proofs

open Interaction (takeFirst?)

/-- The interactions of a pair of port and method. -/
def stream (xs : List Interaction) (pair : String × String) : List Interaction :=
  xs.filter (·.pair = pair)

/-- The answers to a sequence of calls, and the replayer behind them. -/
def serve (r : Replayer) : List (String × String) → List (Except Halt Interaction) × Replayer
  | [] => ([], r)
  | pair :: pairs =>
    let (answer, r') := r.next pair.1 pair.2
    let (answers, r'') := serve r' pairs
    (answer :: answers, r'')

/-- What the calls of one pair were answered: an interaction, or nothing if the call broke off. -/
def answersOf (pair : String × String) (calls : List (String × String))
    (answers : List (Except Halt Interaction)) : List (Option Interaction) :=
  ((calls.zip answers).filter (·.1 = pair)).map (·.2.toOption)

/-- The interactions that were returned. -/
def returned (answers : List (Except Halt Interaction)) : List Interaction :=
  answers.filterMap Except.toOption

/-! ### One call -/

/-- The call returned the first interaction of its pair and changed no other stream. -/
structure Serves (r : Replayer) (pair : String × String) (x : Interaction) (r' : Replayer) :
    Prop where
  stream_self : stream r.pending pair = x :: stream r'.pending pair
  stream_other : ∀ other, other ≠ pair → stream r'.pending other = stream r.pending other
  pairs_eq : r'.pairs = r.pairs
  lastServed_eq : r'.lastServed = some x.seq
  remaining_eq : r'.remaining + 1 = r.remaining

/-- Why a call for a pair without interactions breaks off. -/
def exhausted (r : Replayer) (pair : String × String) : Halt :=
  if r.pairs.contains pair then .consumed pair.1 pair.2 r.lastServed
  else .unrecorded pair.1 pair.2 r.available

lemma next_cases (r : Replayer) (pair : String × String) :
    (∃ x r', r.next pair.1 pair.2 = (.ok x, r') ∧ Serves r pair x r') ∨
      stream r.pending pair = [] ∧ r.next pair.1 pair.2 = (.error (exhausted r pair), r) := by
  unfold Replayer.next exhausted
  rw [Prod.mk.eta]
  cases htake : takeFirst? pair r.pending with
  | none =>
    right
    have hnone := Interaction.takeFirst?_eq_none_iff.mp htake
    refine ⟨?_, ?_⟩
    · exact List.filter_eq_nil_iff.mpr fun x hx => by simpa using hnone x hx
    · dsimp only
      by_cases hknown : pair ∈ r.pairs
      · rw [if_pos hknown, if_pos (List.contains_iff_mem.mpr hknown)]
      · rw [if_neg hknown, if_neg fun h => hknown (List.contains_iff_mem.mp h)]
  | some taken =>
    left
    obtain ⟨x, rest⟩ := taken
    obtain ⟨before, behind, hpending, hrest, hpair, hbefore⟩ :=
      Interaction.takeFirst?_eq_some htake
    have hskipped : before.filter (·.pair = pair) = [] :=
      List.filter_eq_nil_iff.mpr fun y hy => by simpa using hbefore y hy
    refine ⟨x, _, rfl, ?_, ?_, rfl, rfl, ?_⟩
    · rw [stream, stream, hpending, hrest, List.filter_append, List.filter_append, hskipped,
        List.filter_cons_of_pos (by simpa using hpair)]
      rfl
    · intro other hother
      rw [stream, stream, hpending, hrest, List.filter_append, List.filter_append,
        List.filter_cons_of_neg (by simpa [hpair] using hother.symm)]
    · simp only [Replayer.remaining, hpending, hrest, List.length_append, List.length_cons]
      omega

/-! ### Sequences of calls -/

/-- Behind a sequence of calls each stream has lost as many interactions as it was asked for. -/
lemma stream_serve (r : Replayer) (calls : List (String × String)) (pair : String × String) :
    stream (serve r calls).2.pending pair = (stream r.pending pair).drop (calls.count pair) := by
  induction calls generalizing r with
  | nil => rfl
  | cons call calls ih =>
    rw [serve]
    dsimp only
    rcases next_cases r call with ⟨x, r', hnext, hserves⟩ | ⟨hempty, hnext⟩
    · rw [hnext, ih r']
      by_cases hcall : call = pair
      · rw [hcall] at hserves
        rw [hcall, List.count_cons_self, hserves.stream_self, List.drop_succ_cons]
      · rw [List.count_cons_of_ne hcall, hserves.stream_other pair (Ne.symm hcall)]
    · rw [hnext, ih r]
      by_cases hcall : call = pair
      · rw [← hcall, hempty, List.drop_nil, List.drop_nil]
      · rw [List.count_cons_of_ne hcall]

/-- The k-th call for a pair is answered with the k-th interaction of its stream. -/
lemma answersOf_serve (r : Replayer) (calls : List (String × String)) (pair : String × String) :
    answersOf pair calls (serve r calls).1 =
      (List.range (calls.count pair)).map fun k => (stream r.pending pair)[k]? := by
  induction calls generalizing r with
  | nil => rfl
  | cons call calls ih =>
    have hskip : ∀ answer answers, call ≠ pair →
        answersOf pair (call :: calls) (answer :: answers) = answersOf pair calls answers := by
      intro answer answers hcall
      rw [answersOf, List.zip_cons_cons, List.filter_cons_of_neg (by simpa using hcall)]
      rfl
    have hkeep : ∀ answer answers, call = pair → answersOf pair (call :: calls)
        (answer :: answers) = answer.toOption :: answersOf pair calls answers := by
      intro answer answers hcall
      rw [answersOf, List.zip_cons_cons, List.filter_cons_of_pos (by simpa using hcall)]
      rfl
    rw [serve]
    dsimp only
    rcases next_cases r call with ⟨x, r', hnext, hserves⟩ | ⟨hempty, hnext⟩
    · rw [hnext]
      by_cases hcall : call = pair
      · rw [hkeep _ _ hcall, ih r', hcall, List.count_cons_self, List.range_succ_eq_map,
          List.map_cons, List.map_map, ← hcall, hserves.stream_self]
        rfl
      · rw [hskip _ _ hcall, ih r', List.count_cons_of_ne hcall,
          hserves.stream_other pair (Ne.symm hcall)]
    · rw [hnext]
      by_cases hcall : call = pair
      · rw [hkeep _ _ hcall, ih r, hcall, List.count_cons_self, List.range_succ_eq_map,
          List.map_cons, List.map_map, ← hcall, hempty]
        rfl
      · rw [hskip _ _ hcall, ih r, List.count_cons_of_ne hcall]

lemma remaining_serve (r : Replayer) (calls : List (String × String)) :
    (serve r calls).2.remaining + (returned (serve r calls).1).length = r.remaining := by
  induction calls generalizing r with
  | nil => rfl
  | cons call calls ih =>
    rw [serve]
    dsimp only
    rcases next_cases r call with ⟨x, r', hnext, hserves⟩ | ⟨-, hnext⟩
    · have hreturned : returned (.ok x :: (serve r' calls).1) =
          x :: returned (serve r' calls).1 := rfl
      rw [hnext, hreturned, List.length_cons, ← hserves.remaining_eq, ← ih r', Nat.add_assoc]
    · rw [hnext]
      exact ih r

lemma pairs_serve (r : Replayer) (calls : List (String × String)) :
    (serve r calls).2.pairs = r.pairs := by
  induction calls generalizing r with
  | nil => rfl
  | cons call calls ih =>
    rw [serve]
    dsimp only
    rcases next_cases r call with ⟨x, r', hnext, hserves⟩ | ⟨-, hnext⟩
    · rw [hnext, ih r', hserves.pairs_eq]
    · rw [hnext, ih r]

/-- The replayer remembers the interaction that it returned last. -/
lemma lastServed_serve (r : Replayer) (calls : List (String × String)) :
    (serve r calls).2.lastServed =
      (((returned (serve r calls).1).getLast?.map (·.seq)).or r.lastServed) := by
  induction calls generalizing r with
  | nil => rfl
  | cons call calls ih =>
    rw [serve]
    dsimp only
    rcases next_cases r call with ⟨x, r', hnext, hserves⟩ | ⟨-, hnext⟩
    · have hreturned : returned (.ok x :: (serve r' calls).1) =
          x :: returned (serve r' calls).1 := rfl
      rw [hnext, hreturned, ih r', hserves.lastServed_eq, List.getLast?_cons]
      cases (returned (serve r' calls).1).getLast? <;> rfl
    · rw [hnext]
      exact ih r

/-! ### Streams of a cassette -/

lemma mem_distinct {α : Type} [DecidableEq α] {a : α} {as : List α} :
    a ∈ Replayer.distinct as ↔ a ∈ as := by
  induction as with
  | nil => rfl
  | cons b as ih =>
    unfold Replayer.distinct
    split_ifs with hb
    · rw [ih, List.mem_cons]
      refine ⟨.inr, ?_⟩
      rintro (rfl | h)
      · exact hb
      · exact h
    · rw [List.mem_cons, List.mem_cons, ih]

lemma mem_pairs_ofCassette (c : Cassette) (pair : String × String) :
    pair ∈ (Replayer.ofCassette c).pairs ↔ stream c.interactions pair ≠ [] := by
  rw [Replayer.ofCassette, mem_distinct, List.mem_map, stream, ne_eq, List.filter_eq_nil_iff]
  simp

lemma count_eq_length_filter (pairs : List (String × String)) (pair : String × String) :
    pairs.count pair = (pairs.filter (· = pair)).length := by
  rw [List.count, List.countP_eq_length_filter]
  congr 1
  exact List.filter_congr fun other _ => beq_eq_decide other pair

lemma length_eq_of_streams {xs ys : List Interaction}
    (h : ∀ pair, stream xs pair = stream ys pair) : xs.length = ys.length := by
  have hcount : ∀ (zs : List Interaction) pair,
      (zs.map Interaction.pair).count pair = (stream zs pair).length := by
    intro zs pair
    rw [count_eq_length_filter, List.filter_map, List.length_map]
    rfl
  have hperm : (xs.map Interaction.pair).Perm (ys.map Interaction.pair) := by
    rw [List.perm_iff_count]
    intro pair
    rw [hcount, hcount, h pair]
  have hlength := hperm.length_eq
  rwa [List.length_map, List.length_map] at hlength

/-- The pairs of a cassette are independent queues, whatever the order of the calls. The k-th call
for a pair returns the k-th interaction of the pair. A call breaks off exactly when there is none,
naming the interaction that was returned last, and then it changes nothing. What remains is what
was not returned. So the order of calls for different pairs does not matter. -/
theorem replayer_streams (c : Cassette) (calls : List (String × String)) :
    let run := serve (.ofCassette c) calls
    let last := (returned run.1).getLast?.map (·.seq)
    (∀ pair, answersOf pair calls run.1 =
        (List.range (calls.count pair)).map fun k => (stream c.interactions pair)[k]?) ∧
      (∀ port method, match (stream c.interactions (port, method))[calls.count (port, method)]? with
        | some x => (run.2.next port method).1 = .ok x
        | none => run.2.next port method =
          (.error (if stream c.interactions (port, method) = [] then
              .unrecorded port method (Replayer.ofCassette c).available
            else .consumed port method last), run.2)) ∧
      run.2.lastServed = last ∧
      run.2.remaining + (returned run.1).length = c.interactions.length ∧
      ∀ calls', (∀ pair, calls'.filter (· = pair) = calls.filter (· = pair)) →
        (∀ pair, answersOf pair calls' (serve (.ofCassette c) calls').1 =
          answersOf pair calls run.1) ∧
        (serve (.ofCassette c) calls').2.remaining = run.2.remaining := by
  intro run last
  have hlast : run.2.lastServed = last :=
    (lastServed_serve (.ofCassette c) calls).trans (Option.or_none ..)
  have hpairs : run.2.pairs = (Replayer.ofCassette c).pairs := pairs_serve (.ofCassette c) calls
  refine ⟨answersOf_serve (.ofCassette c) calls, ?_, hlast, remaining_serve _ calls, ?_⟩
  · intro port method
    have hstream : stream run.2.pending (port, method) =
        (stream c.interactions (port, method)).drop (calls.count (port, method)) :=
      stream_serve (.ofCassette c) calls (port, method)
    rw [← Nat.add_zero (calls.count (port, method)), ← List.getElem?_drop, ← hstream]
    rcases next_cases run.2 (port, method) with ⟨x, r', hnext, hserves⟩ | ⟨hempty, hnext⟩
    · rw [hserves.stream_self, hnext]
      rfl
    · rw [hempty, hnext, exhausted, hlast]
      have havailable : run.2.available = (Replayer.ofCassette c).available := by
        rw [Replayer.available, hpairs, Replayer.available]
      rw [hpairs, havailable]
      by_cases hknown : (port, method) ∈ (Replayer.ofCassette c).pairs
      · rw [if_pos (List.contains_iff_mem.mpr hknown),
          if_neg ((mem_pairs_ofCassette c _).mp hknown)]
        rfl
      · rw [if_neg fun h => hknown (List.contains_iff_mem.mp h),
          if_pos (not_not.mp fun h => hknown ((mem_pairs_ofCassette c _).mpr h))]
        rfl
  · intro calls' hcalls
    have hcount : ∀ pair, calls'.count pair = calls.count pair := by
      intro pair
      rw [count_eq_length_filter, count_eq_length_filter, hcalls pair]
    refine ⟨?_, ?_⟩
    · intro pair
      rw [answersOf_serve, answersOf_serve, hcount pair]
    · apply length_eq_of_streams
      intro pair
      rw [stream_serve, stream_serve, hcount pair]

/-- A call that finds its stream empty tells which interaction was returned last, of any stream. -/
example :
    let call := fun seq method => Interaction.mk seq "fs" method .null .null
    let c : Cassette :=
      ⟨"n", "", ⟨2024, 1, 1, 0, 0, 0, 0⟩, "r", [call 0 "a", call 1 "b", call 2 "a"]⟩
    let run := serve (.ofCassette c) [("fs", "b"), ("fs", "a"), ("fs", "b"), ("fs", "a")]
    run.1.map (Except.map (·.seq)) =
      [.ok 1, .ok 0, .error (.consumed "fs" "b" (some 0)), .ok 2] ∧ run.2.remaining = 0 := by
  decide

end ServiceLinker.Proofs
