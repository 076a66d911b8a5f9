import ServiceLinker.Cassette.Basic
import ServiceLinker.FileSystem.Basic
import ServiceLinker.Text.Quoted

/-!
# Serving recorded calls

A replayer serves the calls of a cassette again, one stream for each pair of port and method: a
request for a pair gets the first call of that pair that was not served yet. A pair that the
cassette does not know and a pair whose calls are used up are told apart.
-/

namespace ServiceLinker

/-- The calls of a cassette that are still to be served. -/
structure Replayer where
  /-- The pairs of port and method that the cassette has calls of. -/
  pairs : List (String × String)
  /-- The calls that were not served yet, in the order of the cassette. -/
  pending : List Interaction
  /-- The number of the call that was served last. -/
  lastServed : Option Nat

namespace Interaction

/-- The stream that a call belongs to. -/
def pair (x : Interaction) : String × String := (x.port, x.method)

/-- The first call of a pair, and the calls without it. -/
def takeFirst? (pair : String × String) : List Interaction → Option (Interaction × List Interaction)
  | [] => none
  | x :: xs =>
    if x.pair = pair then some (x, xs)
    else (takeFirst? pair xs).map fun (y, ys) => (y, x :: ys)

/-- No call is served exactly when there is none of the pair. -/
theorem takeFirst?_eq_none_iff {pair : String × String} {xs : List Interaction} :
    takeFirst? pair xs = none ↔ ∀ x ∈ xs, x.pair ≠ pair := by
  induction xs with
  | nil => simp [takeFirst?]
  | cons x xs ih =>
    by_cases h : x.pair = pair
    · simp [takeFirst?, h]
    · simp [takeFirst?, h, ih]

/-- The served call is the first of its pair, and nothing else is taken. -/
theorem takeFirst?_eq_some {pair : String × String} {xs rest : List Interaction} {x : Interaction}
    (h : takeFirst? pair xs = some (x, rest)) :
    ∃ before behind, xs = before ++ x :: behind ∧ rest = before ++ behind ∧ x.pair = pair ∧
      ∀ y ∈ before, y.pair ≠ pair := by
  induction xs generalizing rest with
  | nil => simp [takeFirst?] at h
  | cons y ys ih =>
    by_cases hy : y.pair = pair
    · simp only [takeFirst?, hy, if_true, Option.some.injEq, Prod.mk.injEq] at h
      obtain ⟨rfl, rfl⟩ := h
      exact ⟨[], ys, rfl, rfl, hy, by simp⟩
    · simp only [takeFirst?, hy, if_false, Option.map_eq_some_iff] at h
      obtain ⟨⟨z, zs⟩, hz, he⟩ := h
      simp only [Prod.mk.injEq] at he
      obtain ⟨rfl, rfl⟩ := he
      obtain ⟨before, behind, rfl, rfl, hp, hb⟩ := ih hz
      exact ⟨y :: before, behind, rfl, rfl, hp, by simpa [hy] using hb⟩

end Interaction

namespace Replayer

/-- The elements of a list without their repetitions. -/
def distinct [DecidableEq α] : List α → List α
  | [] => []
  | a :: as => if a ∈ as then distinct as else a :: distinct as

def ofCassette (c : Cassette) : Replayer :=
  ⟨distinct (c.interactions.map Interaction.pair), c.interactions, none⟩

/-- The number of calls that were not served yet. -/
def remaining (r : Replayer) : Nat := r.pending.length

/-- How a message lists a pair. -/
def pairText (pair : String × String) : String := pair.1 ++ "::" ++ pair.2

/-- The known pairs as messages list them, in ascending order. -/
def available (r : Replayer) : List String := (r.pairs.map pairText).mergeSort fun a b => a ≤ b

/-- The next call of a pair. If there is none, nothing changes. -/
def next (r : Replayer) (port method : String) : Except Halt Interaction × Replayer :=
  match Interaction.takeFirst? (port, method) r.pending with
  | some (x, rest) => (.ok x, { r with pending := rest, lastServed := some x.seq })
  | none =>
    if (port, method) ∈ r.pairs then (.error (.consumed port method r.lastServed), r)
    else (.error (.unrecorded port method r.available), r)

/-- Every served call is one that remains no longer. -/
theorem remaining_next {r r' : Replayer} {port method : String} {x : Interaction}
    (h : r.next port method = (.ok x, r')) : r'.remaining + 1 = r.remaining := by
  unfold next at h
  split at h
  · rename_i y rest ht
    obtain ⟨before, behind, he, hr, -, -⟩ := Interaction.takeFirst?_eq_some ht
    simp only [Prod.mk.injEq] at h
    rw [← h.2]
    simp only [remaining, he, hr, List.length_append, List.length_cons]
    omega
  · split at h <;> simp at h

end Replayer

/-- How a message gives the number of a call that may not be there. -/
def Halt.optionText : Option Nat → String
  | some n => "Some(" ++ toString n ++ ")"
  | none => "None"

/-- The wording of a break-off. -/
def Halt.message : Halt → String
  | .unrecorded port method available =>
    "Cassette exhausted: no interactions recorded for port=" ++ Text.quote port ++ " method=" ++
      Text.quote method ++ ". Available port::method pairs: [" ++ ", ".intercalate available ++ "]"
  | .consumed port method last =>
    "Cassette exhausted: every interaction for port=" ++ Text.quote port ++ " method=" ++
      Text.quote method ++ " has been consumed. Last served seq=" ++ optionText last ++ "."
  | .diverged => "replayer lock poisoned: PoisonError \x7b .. \x7d"
  | .notBoolean => "fs::exists: expected boolean output"

end ServiceLinker
