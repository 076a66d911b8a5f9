import ServiceLinker.Proofs.DescriptorParsing

/-!
# The patterns as regular expressions

The patterns are regular expressions, for which the rule is leftmost-first: a search takes the
leftmost place with a match, and there the first match in the order in which the choices of the
expression are tried, where a repetition takes what it can and gives it back one by one. This file
states the rule and proves that the direct searches, which try fewer blanks before more, find the
same.
-/

namespace ServiceLinker.Proofs

open Text (isBlank after? leftmost?)
open Pattern (Kind)

/-- A match at the start of a text: what it takes, what its group takes, and what is left. -/
structure Match where
  taken : List Char
  kept : Option (List Char)
  rest : List Char

/-- One match behind another. -/
def Match.before (x y : Match) : Match := ⟨x.taken ++ y.taken, y.kept.or x.kept, y.rest⟩

/-- Regular expressions whose repetitions are of single characters. -/
inductive Expression where
  | word (w : List Char)
  | one (p : Char → Bool)
  | many (p : Char → Bool)
  | seq (a b : Expression)
  | either (a b : Expression)
  | group (a : Expression)

namespace Expression

/-- The matches of a repetition at the start of a text, the longest first. -/
@[simp] def repeats (p : Char → Bool) : List Char → List Match
  | [] => [⟨[], none, []⟩]
  | c :: cs =>
    if p c then (repeats p cs).map (fun x => ⟨c :: x.taken, none, x.rest⟩) ++ [⟨[], none, c :: cs⟩]
    else [⟨[], none, c :: cs⟩]

/-- The match of a single character at the start of a text, if there is one. -/
@[simp] def single (p : Char → Bool) : List Char → List Match
  | [] => []
  | c :: cs => if p c then [⟨[c], none, cs⟩] else []

/-- The matches at the start of a text, in the order in which they are tried. -/
@[simp] def ways : Expression → List Char → List Match
  | word w, cs => ((after? w cs).map fun rest => ⟨w, none, rest⟩).toList
  | one p, cs => single p cs
  | many p, cs => repeats p cs
  | seq a b, cs => (a.ways cs).flatMap fun x => (b.ways x.rest).map x.before
  | either a b, cs => a.ways cs ++ b.ways cs
  | group a, cs => (a.ways cs).map fun x => { x with kept := some x.taken }

/-- The first match at the leftmost place where there is one. -/
def search (e : Expression) (text : String) : Option Match :=
  leftmost? (fun cs => (e.ways cs).head?) text.toList

/-- At least one character of a class. -/
def atLeastOne (p : Char → Bool) : Expression := seq (one p) (many p)

section

variable {cs : List Char} {x : Match} {p : Char → Bool} {a b : Expression}

lemma mem_ways_word {w : List Char} :
    x ∈ (word w).ways cs ↔ ∃ rest, cs = w ++ rest ∧ x = ⟨w, none, rest⟩ := by
  simp only [ways, Option.mem_toList, Option.map_eq_some_iff, Text.after?_eq_some_iff]
  constructor
  · rintro ⟨rest, hcs, rfl⟩
    exact ⟨rest, hcs, rfl⟩
  · rintro ⟨rest, hcs, rfl⟩
    exact ⟨rest, hcs, rfl⟩

lemma mem_ways_one :
    x ∈ (one p).ways cs ↔ ∃ c rest, cs = c :: rest ∧ p c = true ∧ x = ⟨[c], none, rest⟩ := by
  cases cs with
  | nil => simp
  | cons c cs => by_cases hc : p c = true <;> simp [hc]

lemma mem_ways_many :
    x ∈ (many p).ways cs ↔
      ∃ w rest, cs = w ++ rest ∧ (∀ c ∈ w, p c = true) ∧ x = ⟨w, none, rest⟩ := by
  rw [ways]
  induction cs generalizing x with
  | nil => simp
  | cons c cs ih =>
    constructor
    · intro h
      rw [repeats] at h
      split_ifs at h with hc
      · rw [List.mem_append, List.mem_map, List.mem_singleton] at h
        rcases h with ⟨y, hy, rfl⟩ | rfl
        · obtain ⟨w, rest, rfl, hw, rfl⟩ := ih.mp hy
          refine ⟨c :: w, rest, rfl, ?_, rfl⟩
          simpa [hc] using hw
        · exact ⟨[], c :: cs, rfl, by simp, rfl⟩
      · rw [List.mem_singleton] at h
        exact ⟨[], c :: cs, rfl, by simp, h⟩
    · rintro ⟨w, rest, hcs, hw, rfl⟩
      cases w with
      | nil =>
        obtain rfl : c :: cs = rest := hcs
        rw [repeats]
        split_ifs <;> simp
      | cons d w =>
        obtain ⟨rfl, htail⟩ := List.cons.inj hcs
        obtain ⟨hc, hw⟩ := List.forall_mem_cons.mp hw
        rw [repeats, if_pos hc, List.mem_append, List.mem_map]
        exact .inl ⟨⟨w, none, rest⟩, ih.mpr ⟨w, rest, htail, hw, rfl⟩, rfl⟩

lemma mem_ways_seq :
    x ∈ (seq a b).ways cs ↔ ∃ y ∈ a.ways cs, ∃ z ∈ b.ways y.rest, x = y.before z := by
  simp [eq_comm]

lemma mem_ways_either : x ∈ (either a b).ways cs ↔ x ∈ a.ways cs ∨ x ∈ b.ways cs := by
  simp

lemma mem_ways_group :
    x ∈ (group a).ways cs ↔ ∃ y ∈ a.ways cs, x = { y with kept := some y.taken } := by
  simp [eq_comm]

lemma mem_ways_atLeastOne :
    x ∈ (atLeastOne p).ways cs ↔
      ∃ w rest, cs = w ++ rest ∧ w ≠ [] ∧ (∀ c ∈ w, p c = true) ∧ x = ⟨w, none, rest⟩ := by
  simp only [atLeastOne, mem_ways_seq, mem_ways_one, mem_ways_many]
  constructor
  · rintro ⟨_, ⟨c, _, rfl, hc, rfl⟩, _, ⟨w, rest, rfl, hw, rfl⟩, rfl⟩
    refine ⟨c :: w, rest, rfl, by simp, ?_, rfl⟩
    simpa [hc] using hw
  · rintro ⟨w, rest, rfl, hne, hw, rfl⟩
    cases w with
    | nil => exact absurd rfl hne
    | cons c w =>
      obtain ⟨hc, hw⟩ := List.forall_mem_cons.mp hw
      exact ⟨_, ⟨c, _, rfl, hc, rfl⟩, _, ⟨w, rest, rfl, hw, rfl⟩, rfl⟩

lemma ways_seq_ne_nil (hx : x ∈ a.ways cs) (hb : b.ways x.rest ≠ []) :
    (seq a b).ways cs ≠ [] := by
  obtain ⟨y, hy⟩ := List.exists_mem_of_ne_nil _ hb
  exact List.ne_nil_of_mem (mem_ways_seq.mpr ⟨x, hx, y, hy, rfl⟩)

/-- The first match of a sequence ends in the first match of its second part. -/
lemma exists_of_head?_seq (h : ((seq a b).ways cs).head? = some x) :
    ∃ y ∈ a.ways cs, ∃ z, (b.ways y.rest).head? = some z ∧ x = y.before z := by
  rw [ways, List.head?_flatMap] at h
  obtain ⟨y, hy, hx⟩ := List.exists_of_findSome?_eq_some h
  rw [List.head?_map, Option.map_eq_some_iff] at hx
  obtain ⟨z, hz, rfl⟩ := hx
  exact ⟨y, hy, z, hz, rfl⟩

lemma exists_of_head?_word_seq {w : List Char}
    (h : ((seq (word w) b).ways cs).head? = some x) :
    ∃ rest z, cs = w ++ rest ∧ (b.ways rest).head? = some z ∧ x.kept = z.kept := by
  obtain ⟨_, hword, z, hz, rfl⟩ := exists_of_head?_seq h
  obtain ⟨rest, rfl, rfl⟩ := mem_ways_word.mp hword
  exact ⟨rest, z, rfl, hz, Option.or_none ..⟩

lemma exists_of_head?_many_seq (h : ((seq (many p) b).ways cs).head? = some x) :
    ∃ w rest z, cs = w ++ rest ∧ (∀ c ∈ w, p c = true) ∧ (b.ways rest).head? = some z ∧
      x.kept = z.kept := by
  obtain ⟨_, hmany, z, hz, rfl⟩ := exists_of_head?_seq h
  obtain ⟨w, rest, rfl, hw, rfl⟩ := mem_ways_many.mp hmany
  exact ⟨w, rest, z, rfl, hw, hz, Option.or_none ..⟩

lemma exists_of_head?_atLeastOne_seq (h : ((seq (atLeastOne p) b).ways cs).head? = some x) :
    ∃ w rest z, cs = w ++ rest ∧ w ≠ [] ∧ (∀ c ∈ w, p c = true) ∧
      (b.ways rest).head? = some z ∧ x.kept = z.kept := by
  obtain ⟨_, hsome, z, hz, rfl⟩ := exists_of_head?_seq h
  obtain ⟨w, rest, rfl, hne, hw, rfl⟩ := mem_ways_atLeastOne.mp hsome
  exact ⟨w, rest, z, rfl, hne, hw, hz, Option.or_none ..⟩

lemma head?_ways_many :
    ((many p).ways cs).head? = some ⟨cs.takeWhile p, none, cs.dropWhile p⟩ := by
  rw [ways]
  induction cs with
  | nil => rfl
  | cons c cs ih => by_cases hc : p c = true <;> simp [hc, ih]

end

end Expression

open Expression

/-! ### Headers -/

/-- The keyword, blanks, the name, and a blank or the mark. -/
def headerExpression (kind : Kind) (name : String) : Expression :=
  seq (word kind.keyword.toList) (seq (atLeastOne isBlank) (seq (word name.toList)
    (either (one isBlank) (one (· = kind.mark)))))

lemma ways_headerExpression_ne_nil_iff {kind : Kind} {name : String} {cs : List Char} :
    (headerExpression kind name).ways cs ≠ [] ↔
      ∃ w c r, cs = kind.keyword.toList ++ w ++ name.toList ++ [c] ++ r ∧ w ≠ [] ∧
        (∀ x ∈ w, isBlank x = true) ∧ (isBlank c = true ∨ c = kind.mark) := by
  constructor
  · intro h
    obtain ⟨x, hx⟩ := List.exists_mem_of_ne_nil _ h
    obtain ⟨_, hkeyword, _, hx, -⟩ := mem_ways_seq.mp hx
    obtain ⟨_, rfl, rfl⟩ := mem_ways_word.mp hkeyword
    obtain ⟨_, hblanks, _, hx, -⟩ := mem_ways_seq.mp hx
    obtain ⟨w, _, rfl, hne, hw, rfl⟩ := mem_ways_atLeastOne.mp hblanks
    obtain ⟨_, hname, _, hx, -⟩ := mem_ways_seq.mp hx
    obtain ⟨_, rfl, rfl⟩ := mem_ways_word.mp hname
    rw [mem_ways_either, mem_ways_one, mem_ways_one] at hx
    rcases hx with ⟨c, r, rfl, hc, -⟩ | ⟨c, r, rfl, hc, -⟩
    · exact ⟨w, c, r, by simp, hne, hw, .inl hc⟩
    · exact ⟨w, c, r, by simp, hne, hw, .inr (of_decide_eq_true hc)⟩
  · rintro ⟨w, c, r, rfl, hne, hw, hc⟩
    simp only [List.append_assoc]
    apply ways_seq_ne_nil (mem_ways_word.mpr ⟨_, rfl, rfl⟩)
    apply ways_seq_ne_nil (mem_ways_atLeastOne.mpr ⟨w, _, rfl, hne, hw, rfl⟩)
    apply ways_seq_ne_nil (mem_ways_word.mpr ⟨_, rfl, rfl⟩)
    apply List.ne_nil_of_mem
    rw [mem_ways_either, mem_ways_one, mem_ways_one]
    rcases hc with hc | hc
    · exact .inl ⟨c, r, rfl, hc, rfl⟩
    · exact .inr ⟨c, r, rfl, decide_eq_true hc, rfl⟩

/-- A header is declared where the expression has a match. -/
theorem declares_eq_isSome_search (kind : Kind) (name text : String) :
    Pattern.declares kind name text = ((headerExpression kind name).search text).isSome := by
  rw [Bool.eq_iff_iff, declares_iff, search, Text.leftmost?_isSome_iff]
  simp only [List.isSome_head?, ways_headerExpression_ne_nil_iff]
  constructor
  · rintro ⟨p, w, c, r, htext, hrest⟩
    exact ⟨p, _, by simpa using htext, w, c, r, by simp, hrest⟩
  · rintro ⟨p, _, htext, w, c, r, rfl, hrest⟩
    exact ⟨p, w, c, r, by simpa using htext, hrest⟩

/-! ### Texts that a group keeps -/

/-- At every place the direct search finds what the group of the first match keeps. -/
def FindsKept (e : Expression) (f : List Char → Option (List Char)) : Prop :=
  ∀ cs, (e.ways cs = [] → f cs = none) ∧
    ∀ x, (e.ways cs).head? = some x → ∃ a, x.kept = some a ∧ f cs = some a

lemma FindsKept.bind_search {e : Expression} {f : List Char → Option (List Char)}
    (h : FindsKept e f) (text : String) :
    (e.search text).bind (·.kept) = leftmost? f text.toList := by
  have hhead : ∀ cs, ((e.ways cs).head? = none ∧ f cs = none) ∨
      ∃ x a, (e.ways cs).head? = some x ∧ x.kept = some a ∧ f cs = some a := by
    intro cs
    cases hx : (e.ways cs).head? with
    | none => exact .inl ⟨rfl, (h cs).1 (List.head?_eq_none_iff.mp hx)⟩
    | some x =>
      obtain ⟨a, hkept, hfound⟩ := (h cs).2 x hx
      exact .inr ⟨x, a, rfl, hkept, hfound⟩
  rw [search]
  induction text.toList with
  | nil =>
    rcases hhead [] with ⟨hnone, hf⟩ | ⟨x, a, hx, hkept, hf⟩
    · simp [leftmost?, hnone, hf]
    · simp [leftmost?, hx, hkept, hf]
  | cons c cs ih =>
    rcases hhead (c :: cs) with ⟨hnone, hf⟩ | ⟨x, a, hx, hkept, hf⟩
    · simpa [leftmost?, hnone, hf] using ih
    · simp [leftmost?, hx, hkept, hf]

/-- The opening of the attribute, a kept value without a quote, and a quote. -/
def attributeExpression : Expression :=
  seq (word Pattern.attributeOpening) (seq (group (atLeastOne (· ≠ '\x22'))) (word ['\x22']))

lemma findsKept_attribute : FindsKept attributeExpression Pattern.attributeHere? := by
  intro cs
  constructor
  · intro hnone
    by_contra hsome
    obtain ⟨value, hvalue⟩ := Option.ne_none_iff_exists'.mp hsome
    obtain ⟨_, rfl, hne, ⟨r, rfl⟩, hquote⟩ :=
      opensAttribute_iff.mp (attributeHere?_eq_some_iff.mp hvalue)
    have hclass : ∀ c ∈ value, decide (c ≠ '\x22') = true := by
      intro c hc
      have hc' : c ≠ '\x22' := by
        rintro rfl
        exact hquote hc
      simpa using hc'
    refine ways_seq_ne_nil (mem_ways_word.mpr ⟨_, rfl, rfl⟩) ?_ hnone
    refine ways_seq_ne_nil (mem_ways_group.mpr
      ⟨_, mem_ways_atLeastOne.mpr ⟨value, _, rfl, hne, hclass, rfl⟩, rfl⟩) ?_
    exact List.ne_nil_of_mem (mem_ways_word.mpr ⟨r, rfl, rfl⟩)
  · intro x hx
    obtain ⟨_, y, rfl, hy, hkept⟩ := exists_of_head?_word_seq hx
    obtain ⟨_, hvalue, _, hclose, rfl⟩ := exists_of_head?_seq hy
    obtain ⟨_, htaken, rfl⟩ := mem_ways_group.mp hvalue
    obtain ⟨value, _, rfl, hne, hclass, rfl⟩ := mem_ways_atLeastOne.mp htaken
    obtain ⟨r, hrest, rfl⟩ := mem_ways_word.mp (List.mem_of_head? hclose)
    refine ⟨value, hkept, attributeHere?_eq_some_iff.mpr (opensAttribute_iff.mpr ?_)⟩
    refine ⟨_, rfl, hne, ⟨r, ?_⟩, fun hmem => by simpa using hclass _ hmem⟩
    exact congrArg (value ++ ·) hrest

/-- The service attribute is what the group of the expression keeps. -/
theorem serviceAttribute?_eq_search (text : String) :
    Pattern.serviceAttribute? text =
      ((attributeExpression.search text).bind (·.kept)).map String.ofList := by
  rw [findsKept_attribute.bind_search]
  rfl

/-- The keyword, blanks, the name, a colon between blanks, and a kept base name. -/
def inheritanceExpression (name : String) : Expression :=
  seq (word "class".toList) (seq (atLeastOne isBlank) (seq (word name.toList)
    (seq (many isBlank) (seq (word [':']) (seq (many isBlank)
      (group (seq (word ['I']) (atLeastOne Pattern.isNameChar))))))))

/-- A base name is kept as a whole, since the repetition takes what it can. -/
lemma baseName?_of_head? {cs : List Char} {x : Match}
    (h : ((group (seq (word ['I']) (atLeastOne Pattern.isNameChar))).ways cs).head? = some x) :
    ∃ base, x.kept = some base ∧ Pattern.baseName? cs = some base := by
  rw [ways, List.head?_map, Option.map_eq_some_iff] at h
  obtain ⟨_, hname, rfl⟩ := h
  obtain ⟨_, hcapital, _, hword, rfl⟩ := exists_of_head?_seq hname
  obtain ⟨_, rfl, rfl⟩ := mem_ways_word.mp hcapital
  obtain ⟨_, hfirst, _, hmore, rfl⟩ := exists_of_head?_seq hword
  obtain ⟨c, r, hcs, hc, rfl⟩ := mem_ways_one.mp hfirst
  dsimp only at hcs
  subst hcs
  rw [head?_ways_many] at hmore
  cases hmore
  refine ⟨_, rfl, ?_⟩
  simp [Pattern.baseName?, Match.before, hc]

lemma ways_group_ne_nil {cs base : List Char} (h : Pattern.baseName? cs = some base) :
    (group (seq (word ['I']) (atLeastOne Pattern.isNameChar))).ways cs ≠ [] := by
  obtain ⟨r, rfl, ⟨word, rfl, hne, hword⟩, -⟩ := baseName?_eq_some_iff.mp h
  rw [ways, ne_eq, List.map_eq_nil_iff]
  apply ways_seq_ne_nil (mem_ways_word.mpr ⟨_, rfl, rfl⟩)
  apply List.ne_nil_of_mem
  exact mem_ways_atLeastOne.mpr
    ⟨word, r, rfl, hne, fun c hc => isNameChar_iff.mpr (hword c hc), rfl⟩

lemma findsKept_inheritance (name : String) :
    FindsKept (inheritanceExpression name) (Pattern.inheritanceHere? name.toList) := by
  intro cs
  constructor
  · intro hnone
    by_contra hsome
    obtain ⟨base, hbase⟩ := Option.ne_none_iff_exists'.mp hsome
    obtain ⟨w, u, v, r, rfl, hne, hw, hu, hv, hbase, hr⟩ :=
      inheritanceHere?_eq_some_iff.mp hbase
    have hfound := baseName?_eq_some_iff.mpr ⟨r, rfl, hbase, hr⟩
    simp only [List.append_assoc] at hnone
    refine ways_seq_ne_nil (mem_ways_word.mpr ⟨_, rfl, rfl⟩) ?_ hnone
    apply ways_seq_ne_nil (mem_ways_atLeastOne.mpr ⟨w, _, rfl, hne, hw, rfl⟩)
    apply ways_seq_ne_nil (mem_ways_word.mpr ⟨_, rfl, rfl⟩)
    apply ways_seq_ne_nil (mem_ways_many.mpr ⟨u, _, rfl, hu, rfl⟩)
    apply ways_seq_ne_nil (mem_ways_word.mpr ⟨_, rfl, rfl⟩)
    apply ways_seq_ne_nil (mem_ways_many.mpr ⟨v, _, rfl, hv, rfl⟩)
    exact ways_group_ne_nil hfound
  · intro x hx
    obtain ⟨_, x₁, rfl, h₁, hkept₁⟩ := exists_of_head?_word_seq hx
    obtain ⟨w, _, x₂, rfl, hne, hw, h₂, hkept₂⟩ := exists_of_head?_atLeastOne_seq h₁
    obtain ⟨_, x₃, rfl, h₃, hkept₃⟩ := exists_of_head?_word_seq h₂
    obtain ⟨u, _, x₄, rfl, hu, h₄, hkept₄⟩ := exists_of_head?_many_seq h₃
    obtain ⟨_, x₅, rfl, h₅, hkept₅⟩ := exists_of_head?_word_seq h₄
    obtain ⟨v, _, x₆, rfl, hv, h₆, hkept₆⟩ := exists_of_head?_many_seq h₅
    obtain ⟨base, hkept, hfound⟩ := baseName?_of_head? h₆
    obtain ⟨r, rfl, hbase, hr⟩ := baseName?_eq_some_iff.mp hfound
    refine ⟨base, by rw [hkept₁, hkept₂, hkept₃, hkept₄, hkept₅, hkept₆, hkept], ?_⟩
    apply inheritanceHere?_eq_some_iff.mpr
    refine ⟨w, u, v, r, by simp, hne, hw, hu, hv, ?_, hr⟩
    rwa [String.toList_ofList]

/-- The base interface is what the group of the expression keeps. -/
theorem inheritedInterface?_eq_search (name text : String) :
    Pattern.inheritedInterface? name text =
      (((inheritanceExpression name).search text).bind (·.kept)).map String.ofList := by
  rw [(findsKept_inheritance name).bind_search]
  rfl

end ServiceLinker.Proofs
