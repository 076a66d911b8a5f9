/-!
# Searching texts

Occurrences of one text in another, the leftmost place where something starts, and the last
occurrence of a character.
-/

namespace ServiceLinker.Text

/-- What is left behind a given beginning. -/
def after? : List Char → List Char → Option (List Char)
  | [], cs => some cs
  | w :: ws, c :: cs => if w = c then after? ws cs else none
  | _ :: _, [] => none

theorem after?_eq_some_iff {ws cs rest : List Char} :
    after? ws cs = some rest ↔ cs = ws ++ rest := by
  induction ws generalizing cs with
  | nil => simp [after?, eq_comm]
  | cons w ws ih =>
    cases cs with
    | nil => simp [after?]
    | cons c cs =>
      by_cases h : w = c
      · subst h; simp [after?, ih]
      · simp [after?, h, Ne.symm h]

/-- The result at the leftmost place of a text where there is one. -/
def leftmost? (f : List Char → Option α) : List Char → Option α
  | [] => f []
  | c :: cs =>
    match f (c :: cs) with
    | some a => some a
    | none => leftmost? f cs

/-- The leftmost result stands behind the shortest beginning of the text with a result. -/
theorem leftmost?_eq_some_iff {f : List Char → Option α} {cs : List Char} {a : α} :
    leftmost? f cs = some a ↔
      ∃ p r, cs = p ++ r ∧ f r = some a ∧ ∀ p' r', cs = p' ++ r' → p'.length < p.length →
        f r' = none := by
  induction cs with
  | nil =>
    constructor
    · intro h
      exact ⟨[], [], rfl, h, by simp⟩
    · rintro ⟨p, r, hcs, hr, -⟩
      obtain ⟨rfl, rfl⟩ := List.append_eq_nil_iff.mp hcs.symm
      exact hr
  | cons c cs ih =>
    cases h : f (c :: cs) with
    | some b =>
      simp only [leftmost?, h]
      constructor
      · intro hb
        exact ⟨[], c :: cs, rfl, by rw [h, ← hb], by simp⟩
      · rintro ⟨p, r, hcs, hr, hmin⟩
        cases p with
        | nil =>
          simp only [List.nil_append] at hcs
          rw [← hcs, h] at hr
          exact hr
        | cons x p =>
          have := hmin [] (c :: cs) rfl (by simp)
          rw [h] at this
          exact absurd this (by simp)
    | none =>
      simp only [leftmost?, h]
      rw [ih]
      constructor
      · rintro ⟨p, r, rfl, hr, hmin⟩
        refine ⟨c :: p, r, rfl, hr, ?_⟩
        intro p' r' he hlt
        cases p' with
        | nil =>
          simp only [List.nil_append] at he
          rw [← he, h]
        | cons x p' =>
          simp only [List.cons_append, List.cons.injEq] at he
          exact hmin p' r' he.2 (by simpa using hlt)
      · rintro ⟨p, r, hcs, hr, hmin⟩
        cases p with
        | nil =>
          simp only [List.nil_append] at hcs
          rw [← hcs, h] at hr
          exact absurd hr (by simp)
        | cons x p =>
          simp only [List.cons_append, List.cons.injEq] at hcs
          refine ⟨p, r, hcs.2, hr, ?_⟩
          intro p' r' he hlt
          exact hmin (c :: p') r' (by rw [he]; rfl) (by simpa using hlt)

/-- One text occurs in another. -/
def occursIn (needle hay : List Char) : Bool := (leftmost? (after? needle) hay).isSome

theorem leftmost?_isSome_iff {f : List Char → Option α} {cs : List Char} :
    (leftmost? f cs).isSome = true ↔ ∃ p r, cs = p ++ r ∧ (f r).isSome = true := by
  induction cs with
  | nil =>
    constructor
    · exact fun h => ⟨[], [], rfl, h⟩
    · rintro ⟨p, r, hcs, hr⟩
      obtain ⟨rfl, rfl⟩ := List.append_eq_nil_iff.mp hcs.symm
      exact hr
  | cons c cs ih =>
    cases h : f (c :: cs) with
    | some b =>
      simp only [leftmost?, h, Option.isSome_some, true_iff]
      exact ⟨[], c :: cs, rfl, by simp [h]⟩
    | none =>
      simp only [leftmost?, h]
      rw [ih]
      constructor
      · rintro ⟨p, r, rfl, hr⟩
        exact ⟨c :: p, r, rfl, hr⟩
      · rintro ⟨p, r, hcs, hr⟩
        cases p with
        | nil =>
          simp only [List.nil_append] at hcs
          rw [← hcs, h] at hr
          exact absurd hr (by simp)
        | cons x p =>
          simp only [List.cons_append, List.cons.injEq] at hcs
          exact ⟨p, r, hcs.2, hr⟩

theorem occursIn_iff {needle hay : List Char} :
    occursIn needle hay = true ↔ ∃ p r, hay = p ++ needle ++ r := by
  unfold occursIn
  rw [leftmost?_isSome_iff]
  constructor
  · rintro ⟨p, r, rfl, hr⟩
    obtain ⟨rest, hrest⟩ := Option.isSome_iff_exists.mp hr
    exact ⟨p, rest, by rw [after?_eq_some_iff.mp hrest, List.append_assoc]⟩
  · rintro ⟨p, r, rfl⟩
    exact ⟨p, needle ++ r, by rw [List.append_assoc],
      by rw [after?_eq_some_iff.mpr rfl, Option.isSome_some]⟩

/-- A text contains another. -/
def contains (hay needle : String) : Bool := occursIn needle.toList hay.toList

/-- What stands before and behind the last occurrence of a character. -/
def splitLast? (x : Char) : List Char → Option (List Char × List Char)
  | [] => none
  | c :: cs =>
    match splitLast? x cs with
    | some (before, behind) => some (c :: before, behind)
    | none => if c = x then some ([], cs) else none

theorem splitLast?_eq_none_iff {x : Char} {cs : List Char} :
    splitLast? x cs = none ↔ x ∉ cs := by
  induction cs with
  | nil => simp [splitLast?]
  | cons c cs ih =>
    cases h : splitLast? x cs with
    | some p =>
      have : x ∈ cs := by
        refine Classical.byContradiction fun hn => ?_
        rw [ih.mpr hn] at h
        exact absurd h (by simp)
      simp [splitLast?, h, this]
    | none =>
      have : x ∉ cs := ih.mp h
      by_cases hc : c = x
      · simp [splitLast?, h, hc]
      · simp [splitLast?, h, hc, this, Ne.symm hc]

theorem splitLast?_eq_some_iff {x : Char} {cs before behind : List Char} :
    splitLast? x cs = some (before, behind) ↔ cs = before ++ x :: behind ∧ x ∉ behind := by
  induction cs generalizing before with
  | nil => simp [splitLast?]
  | cons c cs ih =>
    cases h : splitLast? x cs with
    | some p =>
      obtain ⟨b, a⟩ := p
      have hne : x ∈ cs := by
        refine Classical.byContradiction fun hn => ?_
        rw [splitLast?_eq_none_iff.mpr hn] at h
        exact absurd h (by simp)
      simp only [splitLast?, h, Option.some.injEq, Prod.mk.injEq]
      constructor
      · rintro ⟨rfl, rfl⟩
        obtain ⟨h1, h2⟩ := (@ih b).mp (by rw [h])
        exact ⟨by rw [h1]; rfl, h2⟩
      · rintro ⟨h1, h2⟩
        cases before with
        | nil =>
          simp only [List.nil_append, List.cons.injEq] at h1
          rw [h1.2] at hne
          exact absurd hne h2
        | cons y before =>
          simp only [List.cons_append, List.cons.injEq] at h1
          have := (@ih before).mpr ⟨h1.2, h2⟩
          rw [h] at this
          simp only [Option.some.injEq, Prod.mk.injEq] at this
          exact ⟨by rw [h1.1, this.1], this.2⟩
    | none =>
      have hx : x ∉ cs := splitLast?_eq_none_iff.mp h
      simp only [splitLast?, h]
      by_cases hc : c = x
      · simp only [hc, if_true, Option.some.injEq, Prod.mk.injEq]
        constructor
        · rintro ⟨rfl, rfl⟩
          exact ⟨rfl, hx⟩
        · rintro ⟨h1, h2⟩
          cases before with
          | nil => simpa [eq_comm] using h1
          | cons y before =>
            simp only [List.cons_append, List.cons.injEq] at h1
            rw [h1.2] at hx
            exact absurd (by simp) hx
      · simp only [hc, if_false]
        constructor
        · intro hf
          exact absurd hf (by simp)
        · rintro ⟨h1, -⟩
          cases before with
          | nil =>
            simp only [List.nil_append, List.cons.injEq] at h1
            exact absurd h1.1 hc
          | cons y before =>
            simp only [List.cons_append, List.cons.injEq] at h1
            rw [h1.2] at hx
            exact absurd (by simp) hx

/-- Two texts are equal up to the case of ASCII letters. -/
def equalIgnoringCase (a b : String) : Bool :=
  a.toList.map Char.toLower == b.toList.map Char.toLower

theorem equalIgnoringCase_iff {a b : String} :
    equalIgnoringCase a b = true ↔ a.toList.map Char.toLower = b.toList.map Char.toLower := by
  simp [equalIgnoringCase]

end ServiceLinker.Text
