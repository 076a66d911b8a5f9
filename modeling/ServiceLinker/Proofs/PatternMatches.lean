import Mathlib
import ServiceLinker.Pattern

/-!
# Matches of the patterns

What the searches for headers, base interfaces and service attributes find in a text is said here
by the ways in which the text can be split, apart from the order in which the searches try them.
A search gives blanks back where the name begins with blanks itself, passes over starts that fail,
and its result does not depend on which of the blanks it takes for which run.
-/

namespace ServiceLinker.Proofs

open Text (isBlank after? leftmost?)
open Pattern (afterBlanks? afterSomeBlanks? Kind)

/-- The leftmost place where something of a kind stands: no shorter beginning of the text is
followed by one. -/
def Leftmost (At : List Char → String → Prop) (text value : String) : Prop :=
  ∃ p cs, text.toList = p ++ cs ∧ At cs value ∧
    ∀ p' cs' value', text.toList = p' ++ cs' → At cs' value' → p.length ≤ p'.length

lemma leftmost?_iff_leftmost {f : List Char → Option (List Char)}
    {At : List Char → String → Prop} (hf : ∀ cs value, f cs = some value ↔ At cs (.ofList value))
    (text value : String) :
    (leftmost? f text.toList).map String.ofList = some value ↔ Leftmost At text value := by
  have hvalue : (leftmost? f text.toList).map String.ofList = some value ↔
      leftmost? f text.toList = some value.toList := by
    rw [Option.map_eq_some_iff]
    constructor
    · rintro ⟨found, hfound, rfl⟩
      rw [hfound, String.toList_ofList]
    · intro h
      exact ⟨value.toList, h, String.ofList_toList⟩
  rw [hvalue, Text.leftmost?_eq_some_iff]
  apply exists_congr
  intro p
  apply exists_congr
  intro cs
  rw [hf, String.ofList_toList]
  refine and_congr_right fun _ => and_congr_right fun _ => ⟨?_, ?_⟩
  · intro h p' cs' value' htext hat
    by_contra hlt
    have hnone := h p' cs' htext (by omega)
    rw [← String.ofList_toList (s := value'), ← hf, hnone] at hat
    cases hat
  · intro h p' cs' htext hlt
    cases hfound : f cs' with
    | none => rfl
    | some found =>
      have hle := h p' cs' (.ofList found) htext ((hf cs' found).mp hfound)
      omega

/-- A longest beginning of one kind ends with the text, or before a character of another kind. -/
lemma takeWhile_eq_iff {p : Char → Bool} {cs word : List Char} :
    cs.takeWhile p = word ↔
      ∃ r, cs = word ++ r ∧ (∀ c ∈ word, p c = true) ∧ ∀ c ∈ r.head?, p c = false := by
  constructor
  · rintro rfl
    refine ⟨cs.dropWhile p, List.takeWhile_append_dropWhile.symm,
      fun c hc => List.mem_takeWhile_imp hc, ?_⟩
    intro c hc
    have hstop := List.head?_dropWhile_not p cs
    rwa [Option.mem_def.mp hc] at hstop
  · rintro ⟨r, rfl, hword, hr⟩
    rw [List.takeWhile_append_of_pos hword]
    cases r with
    | nil => simp
    | cons c r => simp [hr c rfl]

/-! ### Words and blanks -/

section

variable {α : Type} {f : List Char → Option α} {cs : List Char} {a : α}

lemma after?_bind_eq_some_iff {word : List Char} :
    (after? word cs).bind f = some a ↔ ∃ rest, cs = word ++ rest ∧ f rest = some a := by
  simp [Option.bind_eq_some_iff, Text.after?_eq_some_iff]

lemma isSome_after?_bind_iff {word : List Char} :
    ((after? word cs).bind f).isSome = true ↔
      ∃ rest, cs = word ++ rest ∧ (f rest).isSome = true := by
  simp only [Option.isSome_iff_exists, after?_bind_eq_some_iff]
  tauto

lemma exists_of_afterBlanks? (h : afterBlanks? f cs = some a) :
    ∃ w rest, cs = w ++ rest ∧ (∀ c ∈ w, isBlank c = true) ∧ f rest = some a := by
  induction cs with
  | nil => exact ⟨[], [], rfl, by simp, h⟩
  | cons c cs ih =>
    unfold afterBlanks? at h
    split at h
    · next found hfound =>
      cases h
      exact ⟨[], c :: cs, rfl, by simp, hfound⟩
    · split_ifs at h with hc
      obtain ⟨w, rest, rfl, hw, hrest⟩ := ih h
      refine ⟨c :: w, rest, rfl, ?_, hrest⟩
      simpa [hc] using hw

lemma isSome_afterBlanks? {w rest : List Char} (hw : ∀ c ∈ w, isBlank c = true)
    (h : (f rest).isSome = true) : (afterBlanks? f (w ++ rest)).isSome = true := by
  induction w with
  | nil =>
    obtain ⟨found, hfound⟩ := Option.isSome_iff_exists.mp h
    cases rest <;> simp [afterBlanks?, hfound]
  | cons c w ih =>
    obtain ⟨hc, hw⟩ := List.forall_mem_cons.mp hw
    rw [List.cons_append, afterBlanks?, if_pos hc]
    -- an earlier place may do as well
    cases f (c :: (w ++ rest)) with
    | some found => rfl
    | none => exact ih hw

lemma exists_of_afterSomeBlanks? (h : afterSomeBlanks? f cs = some a) :
    ∃ w rest, cs = w ++ rest ∧ w ≠ [] ∧ (∀ c ∈ w, isBlank c = true) ∧ f rest = some a := by
  cases cs with
  | nil => cases h
  | cons c cs =>
    rw [afterSomeBlanks?] at h
    split_ifs at h with hc
    obtain ⟨w, rest, rfl, hw, hrest⟩ := exists_of_afterBlanks? h
    refine ⟨c :: w, rest, rfl, by simp, ?_, hrest⟩
    simpa [hc] using hw

lemma isSome_afterSomeBlanks? {w rest : List Char} (hne : w ≠ [])
    (hw : ∀ c ∈ w, isBlank c = true) (h : (f rest).isSome = true) :
    (afterSomeBlanks? f (w ++ rest)).isSome = true := by
  cases w with
  | nil => exact absurd rfl hne
  | cons c w =>
    obtain ⟨hc, hw⟩ := List.forall_mem_cons.mp hw
    rw [List.cons_append, afterSomeBlanks?, if_pos hc]
    exact isSome_afterBlanks? hw h

end

/-! ### Headers -/

/-- The text has the keyword, blanks, the name, and a blank or the mark, one behind the other. -/
def HasHeader (keyword : String) (mark : Char) (name text : String) : Prop :=
  ∃ p w c r, text.toList = p ++ keyword.toList ++ w ++ name.toList ++ [c] ++ r ∧
    w ≠ [] ∧ (∀ x ∈ w, isBlank x = true) ∧ (isBlank c = true ∨ c = mark)

lemma isSome_headerEnds_iff {kind : Kind} {name cs : List Char} :
    (Pattern.headerEnds kind name cs).isSome = true ↔
      ∃ c r, cs = name ++ c :: r ∧ (isBlank c = true ∨ c = kind.mark) := by
  constructor
  · intro h
    unfold Pattern.headerEnds at h
    split at h
    · next c r hcs =>
      refine ⟨c, r, Text.after?_eq_some_iff.mp hcs, ?_⟩
      by_contra hc
      simp [hc] at h
    · cases h
  · rintro ⟨c, r, hcs, hc⟩
    rw [Pattern.headerEnds, Text.after?_eq_some_iff.mpr hcs]
    simp [hc]

lemma declares_iff {kind : Kind} {name text : String} :
    Pattern.declares kind name text = true ↔ HasHeader kind.keyword kind.mark name text := by
  rw [Pattern.declares, Text.leftmost?_isSome_iff]
  constructor
  · rintro ⟨p, cs, htext, hcs⟩
    obtain ⟨rest, rfl, hrest⟩ := isSome_after?_bind_iff.mp hcs
    obtain ⟨found, hfound⟩ := Option.isSome_iff_exists.mp hrest
    obtain ⟨w, rest, rfl, hne, hw, hends⟩ := exists_of_afterSomeBlanks? hfound
    obtain ⟨c, r, rfl, hc⟩ := isSome_headerEnds_iff.mp (Option.isSome_of_eq_some hends)
    exact ⟨p, w, c, r, by simp [htext], hne, hw, hc⟩
  · rintro ⟨p, w, c, r, htext, hne, hw, hc⟩
    refine ⟨p, kind.keyword.toList ++ (w ++ (name.toList ++ c :: r)), by simp [htext], ?_⟩
    apply isSome_after?_bind_iff.mpr
    refine ⟨_, rfl, ?_⟩
    apply isSome_afterSomeBlanks? hne hw
    exact isSome_headerEnds_iff.mpr ⟨c, r, rfl, hc⟩

/-- A header is recognised exactly where the text can be split as one. The name counts literally,
with the blanks and marks in it. -/
theorem header?_accepts (name : String) (hname : Pattern.searchable name = true) :
    (∃ test, (Pattern.header? .classKind name).value = some test ∧
        ∀ text, test text = true ↔ HasHeader "class" ':' name text) ∧
      ∃ test, (Pattern.header? .interfaceKind name).value = some test ∧
        ∀ text, test text = true ↔ HasHeader "interface" '\x7b' name text := by
  rw [Pattern.value_header?, Pattern.value_header?, if_pos hname, if_pos hname]
  refine ⟨⟨_, rfl, ?_⟩, ⟨_, rfl, ?_⟩⟩
  · intro text
    exact declares_iff
  · intro text
    exact declares_iff

/-- The blank that the name begins with is not the one that separates it from the keyword. -/
theorem header?_accepts_blankFirst :
    Pattern.searchable " A.B" = true ∧
      ∃ test, (Pattern.header? .classKind " A.B").value = some test ∧
        test "class  A.B:" = true ∧ test "class A.B:" = false := by
  have hname : Pattern.searchable " A.B" = true := by decide
  obtain ⟨⟨test, htest, haccepts⟩, -⟩ := header?_accepts " A.B" hname
  refine ⟨hname, test, htest, ?_, ?_⟩
  · apply (haccepts _).mpr
    exact ⟨[], [' '], ':', [], by decide, by simp, by simp [isBlank], .inr rfl⟩
  · have hrefuses : Pattern.declares .classKind " A.B" "class A.B:" = false := by rfl
    rw [← Bool.not_eq_true, haccepts]
    intro h
    rw [(@declares_iff .classKind _ _).mpr h] at hrefuses
    cases hrefuses

/-! ### Base interfaces -/

/-- A character of [A-Za-z0-9_]. -/
def IsWordChar (c : Char) : Prop :=
  ('A' ≤ c ∧ c ≤ 'Z') ∨ ('a' ≤ c ∧ c ≤ 'z') ∨ ('0' ≤ c ∧ c ≤ '9') ∨ c = '_'

/-- A capital I and at least one more character of a word. -/
def IsBaseName (base : List Char) : Prop :=
  ∃ word, base = 'I' :: word ∧ word ≠ [] ∧ ∀ c ∈ word, IsWordChar c

/-- The text starts with the header of a class that lists a base first: the keyword, blanks, the
name, a colon between blanks, and a base name that the word does not go on behind. -/
def DeclaresBase (name : String) (cs : List Char) (base : String) : Prop :=
  ∃ w u v r, cs = "class".toList ++ w ++ name.toList ++ u ++ [':'] ++ v ++ base.toList ++ r ∧
    w ≠ [] ∧ (∀ x ∈ w, isBlank x = true) ∧ (∀ x ∈ u, isBlank x = true) ∧
    (∀ x ∈ v, isBlank x = true) ∧ IsBaseName base.toList ∧ ∀ c ∈ r.head?, ¬ IsWordChar c

lemma isNameChar_iff {c : Char} : Pattern.isNameChar c = true ↔ IsWordChar c := by
  simp only [Pattern.isNameChar, Char.isAlphanum, Char.isAlpha, Char.isUpper, Char.isLower,
    Char.isDigit, IsWordChar, Char.le_def]
  simp
  tauto

lemma baseName?_eq_some_iff {cs base : List Char} :
    Pattern.baseName? cs = some base ↔
      ∃ r, cs = base ++ r ∧ IsBaseName base ∧ ∀ c ∈ r.head?, ¬ IsWordChar c := by
  constructor
  · intro h
    unfold Pattern.baseName? at h
    split at h
    · next cs =>
      dsimp only at h
      split_ifs at h with hempty
      cases h
      obtain ⟨r, hcs, hword, hr⟩ := takeWhile_eq_iff.mp (Eq.refl (cs.takeWhile Pattern.isNameChar))
      refine ⟨r, ?_, ⟨_, rfl, by simpa using hempty, ?_⟩, ?_⟩
      · rw [List.cons_append, ← hcs]
      · intro c hc
        exact isNameChar_iff.mp (hword c hc)
      · intro c hc
        rw [← isNameChar_iff, hr c hc]
        exact Bool.false_ne_true
    · cases h
  · rintro ⟨r, rfl, ⟨word, rfl, hne, hword⟩, hr⟩
    have htake : (word ++ r).takeWhile Pattern.isNameChar = word := by
      apply takeWhile_eq_iff.mpr
      refine ⟨r, rfl, fun c hc => isNameChar_iff.mpr (hword c hc), ?_⟩
      intro c hc
      rw [← Bool.not_eq_true, isNameChar_iff]
      exact hr c hc
    simp [Pattern.baseName?, htake, hne]

lemma dropWhile_append_cancel {p : Char → Bool} {name s t : List Char}
    (h : (name ++ s).dropWhile p = (name ++ t).dropWhile p) : s.dropWhile p = t.dropWhile p := by
  induction name with
  | nil => exact h
  | cons c name ih =>
    by_cases hc : p c = true
    · rw [List.cons_append, List.cons_append, List.dropWhile_cons_of_pos hc,
        List.dropWhile_cons_of_pos hc] at h
      exact ih h
    · rw [List.cons_append, List.cons_append, List.dropWhile_cons_of_neg hc,
        List.dropWhile_cons_of_neg hc, ← List.cons_append, ← List.cons_append,
        List.append_right_inj] at h
      rw [h]

/-- Whichever blanks are taken for which run, the base is the same. -/
lemma DeclaresBase.unique {name : String} {cs : List Char} {base base' : String}
    (h : DeclaresBase name cs base) (h' : DeclaresBase name cs base') : base = base' := by
  obtain ⟨w, u, v, r, rfl, -, hw, hu, hv, hbase, hr⟩ := h
  obtain ⟨w', u', v', r', hcs, -, hw', hu', hv', hbase', hr'⟩ := h'
  simp only [List.append_assoc, List.append_right_inj] at hcs
  -- the name may begin with blanks itself, so that the first run is not determined
  have hname := congrArg (List.dropWhile isBlank) hcs
  rw [List.dropWhile_append_of_pos hw, List.dropWhile_append_of_pos hw'] at hname
  have hcolon := dropWhile_append_cancel hname
  rw [List.dropWhile_append_of_pos hu, List.dropWhile_append_of_pos hu'] at hcolon
  have hbehind : v ++ (base.toList ++ r) = v' ++ (base'.toList ++ r') := by
    simpa [isBlank] using hcolon
  have hstart : base.toList ++ r = base'.toList ++ r' := by
    have hdrop := congrArg (List.dropWhile isBlank) hbehind
    rw [List.dropWhile_append_of_pos hv, List.dropWhile_append_of_pos hv'] at hdrop
    obtain ⟨word, hword, -⟩ := hbase
    obtain ⟨word', hword', -⟩ := hbase'
    simpa [hword, hword', isBlank] using hdrop
  have hfound := baseName?_eq_some_iff.mpr ⟨r, rfl, hbase, hr⟩
  have hfound' := baseName?_eq_some_iff.mpr ⟨r', hstart, hbase', hr'⟩
  rw [hfound] at hfound'
  exact String.toList_inj.mp (Option.some.inj hfound')

lemma declaresBase_of_inheritanceHere? {name : String} {cs base : List Char}
    (h : Pattern.inheritanceHere? name.toList cs = some base) :
    DeclaresBase name cs (.ofList base) := by
  obtain ⟨_, rfl, hblanks⟩ := after?_bind_eq_some_iff.mp h
  obtain ⟨w, _, rfl, hne, hw, hname⟩ := exists_of_afterSomeBlanks? hblanks
  obtain ⟨_, rfl, hlist⟩ := after?_bind_eq_some_iff.mp hname
  obtain ⟨u, _, rfl, hu, hcolon⟩ := exists_of_afterBlanks? hlist
  obtain ⟨_, rfl, hbehind⟩ := after?_bind_eq_some_iff.mp hcolon
  obtain ⟨v, _, rfl, hv, hfound⟩ := exists_of_afterBlanks? hbehind
  obtain ⟨r, rfl, hbase, hr⟩ := baseName?_eq_some_iff.mp hfound
  refine ⟨w, u, v, r, ?_, hne, hw, hu, hv, ?_, hr⟩
  · simp [Kind.keyword]
  · rwa [String.toList_ofList]

lemma isSome_inheritanceHere? {name : String} {cs : List Char} {base : String}
    (h : DeclaresBase name cs base) :
    (Pattern.inheritanceHere? name.toList cs).isSome = true := by
  obtain ⟨w, u, v, r, rfl, hne, hw, hu, hv, hbase, hr⟩ := h
  have hfound := baseName?_eq_some_iff.mpr ⟨r, rfl, hbase, hr⟩
  simp only [List.append_assoc]
  apply isSome_after?_bind_iff.mpr
  refine ⟨_, rfl, ?_⟩
  apply isSome_afterSomeBlanks? hne hw
  apply isSome_after?_bind_iff.mpr
  refine ⟨_, rfl, ?_⟩
  apply isSome_afterBlanks? hu
  apply isSome_after?_bind_iff.mpr
  refine ⟨_, rfl, ?_⟩
  apply isSome_afterBlanks? hv
  exact Option.isSome_of_eq_some hfound

lemma inheritanceHere?_eq_some_iff {name : String} {cs base : List Char} :
    Pattern.inheritanceHere? name.toList cs = some base ↔
      DeclaresBase name cs (.ofList base) := by
  constructor
  · exact declaresBase_of_inheritanceHere?
  · intro h
    obtain ⟨found, hfound⟩ := Option.isSome_iff_exists.mp (isSome_inheritanceHere? h)
    have hsame := h.unique (declaresBase_of_inheritanceHere? hfound)
    rw [hfound, String.ofList_inj.mp hsame]

/-- Behind the name of a class with a base stands a blank or the colon. -/
lemma hasHeader_of_declaresBase {name text : String} {p cs : List Char} {base : String}
    (htext : text.toList = p ++ cs) (h : DeclaresBase name cs base) :
    HasHeader "class" ':' name text := by
  obtain ⟨w, u, v, r, rfl, hne, hw, hu, -⟩ := h
  cases u with
  | nil => exact ⟨p, w, ':', v ++ base.toList ++ r, by simp [htext], hne, hw, .inr rfl⟩
  | cons c u =>
    refine ⟨p, w, c, u ++ [':'] ++ v ++ base.toList ++ r, by simp [htext], hne, hw, .inl ?_⟩
    exact hu c List.mem_cons_self

/-- The base interface is the one at the leftmost place where a header of the class lists a base
first, and it is whole. Where there is one, the text has a header of the class. -/
theorem inherited?_leftmost (name text : String) (hname : Pattern.searchable name = true) :
    (∀ base, (Pattern.inherited? name text).value = some base ↔
        Leftmost (DeclaresBase name) text base) ∧
      (∀ cs base base', DeclaresBase name cs base → DeclaresBase name cs base' → base = base') ∧
      ∀ base, (Pattern.inherited? name text).value = some base →
        ∃ test, (Pattern.header? .classKind name).value = some test ∧ test text = true := by
  have hfound : ∀ base, (Pattern.inherited? name text).value = some base ↔
      Leftmost (DeclaresBase name) text base := by
    intro base
    rw [Pattern.value_inherited?, if_pos hname]
    exact leftmost?_iff_leftmost (fun _ _ => inheritanceHere?_eq_some_iff) text base
  refine ⟨hfound, fun _ _ _ => DeclaresBase.unique, ?_⟩
  intro base hbase
  obtain ⟨p, cs, htext, hcs, -⟩ := (hfound base).mp hbase
  rw [Pattern.value_header?, if_pos hname]
  exact ⟨_, rfl, declares_iff.mpr (hasHeader_of_declaresBase htext hcs)⟩

/-- The first header lists a class first, so that the base comes from the second. -/
theorem inherited?_leftmost_secondHeader :
    let text := "class A : B class A\u2003:IB_2, IC"
    Pattern.searchable "A" = true ∧ Leftmost (DeclaresBase "A") text "IB_2" ∧
      ∃ test, (Pattern.header? .classKind "A").value = some test ∧ test text = true := by
  intro text
  have hname : Pattern.searchable "A" = true := by decide
  have hbase : (Pattern.inherited? "A" text).value = some "IB_2" := by decide +kernel
  obtain ⟨hfound, -, hheader⟩ := inherited?_leftmost "A" text hname
  exact ⟨hname, (hfound _).mp hbase, hheader _ hbase⟩

end ServiceLinker.Proofs
