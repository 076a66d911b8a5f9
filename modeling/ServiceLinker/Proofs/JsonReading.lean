import Mathlib
import ServiceLinker.Json.Printer
import ServiceLinker.Json.Syntax

/-!
# Reading printed JSON

What the printer writes for a value without numbers is read as the tree of that value, in every
layout that puts only blanks between tokens. A lemma about one character gives the quoted texts, a
lemma about one item and one about one field give the collections; each of them leaves the text that
follows open.
-/

namespace ServiceLinker.Proofs

open Json (Layout Syntax escapeChar printText printAt printItems printFields)
open Json.Syntax (Piece pieces? joinPieces? quoted? shortEscape? unit? isGap skipGap valueFrom?
  itemsFrom? fieldsFrom?)

/-! ### Quoted texts -/

/-- A reader finds the piece where the character was written, and takes it for the character. -/
structure Spells (c : Char) (p : Piece) : Prop where
  pieces?_cons : ∀ cs, pieces? (escapeChar c ++ cs) = (pieces? cs).map fun r => (p :: r.1, r.2)
  joinPieces?_cons : ∀ ps, joinPieces? (p :: ps) = (joinPieces? ps).map (c :: ·)

lemma spells_short {c e : Char} (hc : escapeChar c = ['\\', e]) (hu : e ≠ 'u')
    (he : shortEscape? e = some c) : Spells c (.char c) where
  pieces?_cons cs := by
    rw [hc, List.cons_append, List.singleton_append, pieces?, he]
    · cases pieces? cs <;> rfl
    · exact fun _ _ _ _ _ h => absurd h hu
  joinPieces?_cons ps := rfl

lemma unit?_control : ∀ n < 32,
    unit? '0' '0' (Json.hexDigit (n / 16)) (Json.hexDigit (n % 16)) = some n := by
  decide

lemma spells_control {c : Char} (hc : c.toNat < 0x20)
    (h : escapeChar c = ['\\', 'u', '0', '0', Json.hexDigit (c.toNat / 16),
      Json.hexDigit (c.toNat % 16)]) : Spells c (.unit c.toNat) where
  pieces?_cons cs := by
    have hunit := unit?_control c.toNat hc
    rw [h]
    simp only [List.cons_append, List.nil_append]
    rw [pieces?, hunit]
    cases pieces? cs <;> rfl
  joinPieces?_cons ps := by
    have hleading : ¬(0xd800 ≤ c.toNat ∧ c.toNat < 0xdc00) := by omega
    have htrailing : ¬(0xdc00 ≤ c.toNat ∧ c.toNat < 0xe000) := by omega
    conv_lhs => rw [Json.Syntax.joinPieces?.eq_def]
    simp only [hleading, htrailing, if_false, Char.ofNat_toNat]

lemma spells_self {c : Char} (hquote : c ≠ '\x22') (hslash : c ≠ '\\') (hc : ¬c.toNat < 0x20)
    (h : escapeChar c = [c]) : Spells c (.char c) where
  pieces?_cons cs := by
    rw [h, List.singleton_append, pieces?, if_neg hquote]
    · simp only [hslash, hc, decide_false, Bool.or_self, Bool.false_eq_true, if_false]
      cases pieces? cs <;> rfl
    · exact fun _ _ _ _ _ h => absurd h hslash
    · exact fun _ _ h => absurd h hslash
  joinPieces?_cons ps := rfl

/-- The characters that have a short escape. -/
def shortEscaped : List Char := ['\x22', '\\', '\x08', '\x0c', '\n', '\r', '\t']

lemma escapeChar_of_notMem {c : Char} (h : c ∉ shortEscaped) :
    escapeChar c = if c.toNat < 0x20 then ['\\', 'u', '0', '0', Json.hexDigit (c.toNat / 16),
      Json.hexDigit (c.toNat % 16)] else [c] := by
  simp only [shortEscaped, List.mem_cons, List.not_mem_nil, or_false, not_or] at h
  obtain ⟨hquote, hslash, hb, hf, hn, hr, ht⟩ := h
  simp only [escapeChar, hquote, hslash, hb, hf, hn, hr, ht, if_false]

lemma exists_spells (c : Char) : ∃ p, Spells c p := by
  by_cases hshort : c ∈ shortEscaped
  · simp only [shortEscaped, List.mem_cons, List.not_mem_nil, or_false] at hshort
    rcases hshort with rfl | rfl | rfl | rfl | rfl | rfl | rfl <;>
      exact ⟨_, spells_short rfl (by decide) rfl⟩
  · have hescape := escapeChar_of_notMem hshort
    by_cases hcontrol : c.toNat < 0x20
    · rw [if_pos hcontrol] at hescape
      exact ⟨_, spells_control hcontrol hescape⟩
    · rw [if_neg hcontrol] at hescape
      exact ⟨_, spells_self (fun h => hshort (h ▸ by decide)) (fun h => hshort (h ▸ by decide))
        hcontrol hescape⟩

/-- A quoted text is read back, whatever follows it. -/
lemma quoted?_printed (s : String) (rest : List Char) :
    quoted? (s.toList.flatMap escapeChar ++ '\x22' :: rest) = some (some s, rest) := by
  have hpieces : ∀ cs : List Char, ∃ ps,
      pieces? (cs.flatMap escapeChar ++ '\x22' :: rest) = some (ps, rest) ∧
        joinPieces? ps = some cs := by
    intro cs
    induction cs with
    | nil => exact ⟨[], rfl, rfl⟩
    | cons c cs ih =>
      obtain ⟨ps, hps, hjoin⟩ := ih
      obtain ⟨p, hp⟩ := exists_spells c
      refine ⟨p :: ps, ?_, ?_⟩
      · rw [List.flatMap_cons, List.append_assoc, hp.pieces?_cons, hps]
        rfl
      · rw [hp.joinPieces?_cons, hjoin]
        rfl
  obtain ⟨ps, hps, hjoin⟩ := hpieces s.toList
  rw [quoted?, hps, Option.map_some]
  dsimp only
  rw [hjoin, Option.map_some, String.ofList_toList]

/-! ### Values -/

mutual

/-- The tree of the text of a value without numbers. -/
def treeOf : Json → Syntax
  | .null => .null
  | .bool b => .bool b
  | .number _ => .null
  | .text s => .text s
  | .list vs => .list (treesOf vs)
  | .object fs => .object (fieldTreesOf fs)

def treesOf : List Json → List Syntax
  | [] => []
  | v :: vs => treeOf v :: treesOf vs

def fieldTreesOf : List (String × Json) → List (Option String × Syntax)
  | [] => []
  | f :: fs => (some f.1, treeOf f.2) :: fieldTreesOf fs

end

/-- No number occurs in the value. -/
inductive NumberFree : Json → Prop
  | null : NumberFree .null
  | bool (b : Bool) : NumberFree (.bool b)
  | text (s : String) : NumberFree (.text s)
  | list {vs : List Json} (h : ∀ v ∈ vs, NumberFree v) : NumberFree (.list vs)
  | object {fs : List (String × Json)} (h : ∀ f ∈ fs, NumberFree f.2) : NumberFree (.object fs)

/-- Only blanks stand between tokens. -/
structure IsBlankLayout (l : Layout) : Prop where
  lineBreak : ∀ depth, ∀ c ∈ l.lineBreak depth, isGap c = true
  afterColon : ∀ c ∈ l.afterColon, isGap c = true

lemma isBlankLayout_pretty : IsBlankLayout .pretty where
  lineBreak depth c hc := by
    rcases List.mem_cons.mp hc with rfl | hc
    · rfl
    · rw [List.eq_of_mem_replicate hc]
      rfl
  afterColon c hc := by
    rw [List.mem_singleton.mp hc]
    rfl

lemma skipGap_append {blanks : List Char} (h : ∀ c ∈ blanks, isGap c = true) (cs : List Char) :
    skipGap (blanks ++ cs) = skipGap cs := by
  rw [skipGap, skipGap, List.dropWhile_append_of_pos h]

lemma skipGap_cons {c : Char} (h : isGap c = false) (cs : List Char) :
    skipGap (c :: cs) = c :: cs := by
  rw [skipGap, List.dropWhile_cons_of_neg (by rw [h]; exact Bool.false_ne_true)]

lemma valueFrom?_append {blanks : List Char} (h : ∀ c ∈ blanks, isGap c = true) (fuel : Nat)
    (cs : List Char) : valueFrom? fuel (blanks ++ cs) = valueFrom? fuel cs := by
  cases fuel with
  | zero => rfl
  | succ fuel => rw [valueFrom?, skipGap_append h, valueFrom?]

/-- A value without numbers starts with a character that a reader neither passes over nor takes for
the end of a list. -/
lemma exists_printAt_cons {v : Json} (hv : NumberFree v) (l : Layout) (depth : Nat) :
    ∃ c cs, printAt l depth v = c :: cs ∧ isGap c = false ∧ c ≠ ']' := by
  cases hv with
  | null => exact ⟨_, _, rfl, by decide⟩
  | bool b => cases b <;> exact ⟨_, _, rfl, by decide⟩
  | text s => exact ⟨_, _, rfl, by decide⟩
  | @list vs h => cases vs <;> exact ⟨_, _, rfl, by decide⟩
  | @object fs h => cases fs <;> exact ⟨_, _, rfl, by decide⟩

/-- A reader with fuel for the text of a value finds the tree of the value there, whatever follows
it. -/
def ReadsAsTree (l : Layout) (v : Json) : Prop :=
  ∀ depth fuel rest, (printAt l depth v).length ≤ fuel →
    valueFrom? fuel (printAt l depth v ++ rest) = some (treeOf v, rest)

/-! ### Steps of a reader -/

section

variable {fuel : Nat} {cs rest rest' : List Char} {x : Syntax}

lemma itemsFrom?_last (hx : valueFrom? fuel cs = some (x, rest))
    (hrest : skipGap rest = ']' :: rest') : itemsFrom? (fuel + 1) cs = some ([x], rest') := by
  rw [itemsFrom?, hx, Option.bind_eq_bind, Option.bind_some]
  dsimp only
  rw [hrest]
  rfl

lemma itemsFrom?_more (hx : valueFrom? fuel cs = some (x, rest))
    (hrest : skipGap rest = ',' :: rest') :
    itemsFrom? (fuel + 1) cs = (itemsFrom? fuel rest').map fun r => (x :: r.1, r.2) := by
  rw [itemsFrom?, hx, Option.bind_eq_bind, Option.bind_some]
  dsimp only
  rw [hrest]
  change ((itemsFrom? fuel rest').bind fun r => some (x :: r.1, r.2)) = _
  rw [Option.map_eq_bind]
  rfl

lemma itemsFrom?_append {blanks : List Char} (h : ∀ c ∈ blanks, isGap c = true) (fuel : Nat)
    (cs : List Char) : itemsFrom? fuel (blanks ++ cs) = itemsFrom? fuel cs := by
  cases fuel with
  | zero => rfl
  | succ fuel => rw [itemsFrom?, valueFrom?_append h, itemsFrom?]

lemma fieldsFrom?_append {blanks : List Char} (h : ∀ c ∈ blanks, isGap c = true) (fuel : Nat)
    (cs : List Char) : fieldsFrom? fuel (blanks ++ cs) = fieldsFrom? fuel cs := by
  cases fuel with
  | zero => rfl
  | succ fuel => rw [fieldsFrom?, skipGap_append h, fieldsFrom?]

lemma valueFrom?_text :
    valueFrom? (fuel + 1) ('\x22' :: cs) = (quoted? cs).map fun r => (.text r.1, r.2) := by
  rw [valueFrom?, skipGap_cons (by decide)]
  rfl

lemma valueFrom?_list {c : Char} (hcs : skipGap cs = c :: rest) (hc : c ≠ ']') :
    valueFrom? (fuel + 1) ('[' :: cs) =
      (itemsFrom? fuel (c :: rest)).map fun r => (.list r.1, r.2) := by
  rw [valueFrom?, skipGap_cons (by decide)]
  simp only [if_true, hcs]
  -- the reader asks for an empty list first
  split
  · next h => exact absurd (List.cons.inj h).1 hc
  · rfl

lemma valueFrom?_object (hcs : skipGap cs = '\x22' :: rest) :
    valueFrom? (fuel + 1) ('\x7b' :: cs) =
      (fieldsFrom? fuel ('\x22' :: rest)).map fun r => (.object r.1, r.2) := by
  rw [valueFrom?, skipGap_cons (by decide)]
  simp only [hcs]
  rfl

/-- A written key and its colon are passed over. -/
lemma fieldsFrom?_key (key : String) (hx : valueFrom? fuel cs = some (x, rest)) :
    fieldsFrom? (fuel + 1) (printText key ++ ':' :: cs) =
      match skipGap rest with
      | ',' :: rest => (fieldsFrom? fuel rest).bind fun r => some ((some key, x) :: r.1, r.2)
      | '\x7d' :: rest => some ([(some key, x)], rest)
      | _ => none := by
  have hkey : printText key ++ ':' :: cs =
      '\x22' :: (key.toList.flatMap escapeChar ++ '\x22' :: ':' :: cs) := by
    rw [printText, List.cons_append, List.append_assoc, List.singleton_append]
  rw [fieldsFrom?, hkey, skipGap_cons (by decide)]
  simp only [quoted?_printed, Option.bind_eq_bind, Option.bind_some]
  rw [skipGap_cons (by decide)]
  simp only [hx, Option.bind_some]
  rfl

end

section

variable {l : Layout} (hl : IsBlankLayout l)

include hl

lemma itemsFrom?_printed {v : Json} {vs : List Json} (hv : ReadsAsTree l v)
    (hvs : ∀ w ∈ vs, ReadsAsTree l w) (depth fuel : Nat) {blanks : List Char}
    (hblanks : ∀ c ∈ blanks, isGap c = true) (rest : List Char)
    (hfuel : (printAt l depth v).length + (printItems l depth vs).length < fuel) :
    itemsFrom? fuel (printAt l depth v ++ (printItems l depth vs ++ (blanks ++ ']' :: rest))) =
      some (treeOf v :: treesOf vs, rest) := by
  induction vs generalizing v fuel with
  | nil =>
    obtain ⟨fuel, rfl⟩ := Nat.exists_eq_add_one_of_ne_zero (Nat.ne_zero_of_lt hfuel)
    apply itemsFrom?_last (hv depth fuel _ (by omega))
    rw [printItems, List.nil_append, skipGap_append hblanks, skipGap_cons (by decide)]
  | cons w vs ih =>
    obtain ⟨fuel, rfl⟩ := Nat.exists_eq_add_one_of_ne_zero (Nat.ne_zero_of_lt hfuel)
    -- an item costs the reader one step, and the comma before the next one pays for it
    have hlength : (printItems l depth (w :: vs)).length =
        (l.lineBreak depth).length + (printAt l depth w).length +
          (printItems l depth vs).length + 1 := by
      simp only [printItems, List.length_cons, List.length_append]
    have hrest := ih (hvs w List.mem_cons_self) (fun u hu => hvs u (List.mem_cons_of_mem w hu)) fuel
      (by omega)
    have hnext : printItems l depth (w :: vs) ++ (blanks ++ ']' :: rest) =
        ',' :: (l.lineBreak depth ++ (printAt l depth w ++
          (printItems l depth vs ++ (blanks ++ ']' :: rest)))) := by
      simp only [printItems, List.cons_append, List.append_assoc]
    rw [hnext, itemsFrom?_more (hv depth fuel _ (by omega)) (skipGap_cons (by decide) _),
      itemsFrom?_append (hl.lineBreak depth), hrest]
    rfl

lemma fieldsFrom?_printed {f : String × Json} {fs : List (String × Json)} (hf : ReadsAsTree l f.2)
    (hfs : ∀ g ∈ fs, ReadsAsTree l g.2) (depth fuel : Nat) {blanks : List Char}
    (hblanks : ∀ c ∈ blanks, isGap c = true) (rest : List Char)
    (hfuel : (printAt l depth f.2).length + (printFields l depth fs).length < fuel) :
    fieldsFrom? fuel (printText f.1 ++ ':' :: (l.afterColon ++ (printAt l depth f.2 ++
      (printFields l depth fs ++ (blanks ++ '\x7d' :: rest))))) =
      some ((some f.1, treeOf f.2) :: fieldTreesOf fs, rest) := by
  induction fs generalizing f fuel with
  | nil =>
    obtain ⟨fuel, rfl⟩ := Nat.exists_eq_add_one_of_ne_zero (Nat.ne_zero_of_lt hfuel)
    have hvalue := hf depth fuel (printFields l depth [] ++ (blanks ++ '\x7d' :: rest)) (by omega)
    rw [← valueFrom?_append hl.afterColon] at hvalue
    rw [fieldsFrom?_key f.1 hvalue, printFields, List.nil_append, skipGap_append hblanks,
      skipGap_cons (by decide)]
    rfl
  | cons g fs ih =>
    obtain ⟨fuel, rfl⟩ := Nat.exists_eq_add_one_of_ne_zero (Nat.ne_zero_of_lt hfuel)
    have hlength : (printFields l depth (g :: fs)).length =
        (l.lineBreak depth).length + (printText g.1).length + l.afterColon.length +
          (printAt l depth g.2).length + (printFields l depth fs).length + 2 := by
      simp only [printFields, List.length_cons, List.length_append]
      omega
    have hvalue := hf depth fuel (printFields l depth (g :: fs) ++ (blanks ++ '\x7d' :: rest))
      (by omega)
    rw [← valueFrom?_append hl.afterColon] at hvalue
    have hrest := ih (hfs g List.mem_cons_self) (fun u hu => hfs u (List.mem_cons_of_mem g hu)) fuel
      (by omega)
    have hnext : printFields l depth (g :: fs) ++ (blanks ++ '\x7d' :: rest) =
        ',' :: (l.lineBreak depth ++ (printText g.1 ++ ':' :: (l.afterColon ++
          (printAt l depth g.2 ++ (printFields l depth fs ++ (blanks ++ '\x7d' :: rest)))))) := by
      simp only [printFields, List.cons_append, List.append_assoc]
    rw [fieldsFrom?_key f.1 hvalue, hnext, skipGap_cons (by decide)]
    simp only [fieldsFrom?_append (hl.lineBreak depth), hrest]
    rfl

lemma readsAsTree_list {vs : List Json} (hfree : ∀ v ∈ vs, NumberFree v)
    (h : ∀ v ∈ vs, ReadsAsTree l v) : ReadsAsTree l (.list vs) := by
  intro depth fuel rest hfuel
  cases vs with
  | nil =>
    obtain ⟨fuel, rfl⟩ := Nat.exists_eq_add_one_of_ne_zero (Nat.ne_zero_of_lt hfuel)
    rfl
  | cons v vs =>
    have hlength : (printAt l depth (.list (v :: vs))).length =
        (l.lineBreak (depth + 1)).length + (printAt l (depth + 1) v).length +
          (printItems l (depth + 1) vs).length + (l.lineBreak depth).length + 2 := by
      simp only [printAt, List.length_cons, List.length_append, List.length_nil]
    obtain ⟨fuel, rfl⟩ := Nat.exists_eq_add_one_of_ne_zero (n := fuel) (by omega)
    have hitems := itemsFrom?_printed hl (h v List.mem_cons_self)
      (fun w hw => h w (List.mem_cons_of_mem v hw)) (depth + 1) fuel (hl.lineBreak depth) rest
      (by omega)
    have htext : printAt l depth (.list (v :: vs)) ++ rest =
        '[' :: (l.lineBreak (depth + 1) ++ (printAt l (depth + 1) v ++
          (printItems l (depth + 1) vs ++ (l.lineBreak depth ++ ']' :: rest)))) := by
      simp only [printAt, List.cons_append, List.append_assoc, List.nil_append]
    obtain ⟨c, cs, hfirst, hgap, hend⟩ :=
      exists_printAt_cons (hfree v List.mem_cons_self) l (depth + 1)
    rw [hfirst, List.cons_append] at hitems htext
    have hskip := (skipGap_append (hl.lineBreak (depth + 1)) _).trans (skipGap_cons hgap
      (cs ++ (printItems l (depth + 1) vs ++ (l.lineBreak depth ++ ']' :: rest))))
    rw [htext, valueFrom?_list hskip hend, hitems]
    rfl

lemma readsAsTree_object {fs : List (String × Json)} (h : ∀ f ∈ fs, ReadsAsTree l f.2) :
    ReadsAsTree l (.object fs) := by
  intro depth fuel rest hfuel
  cases fs with
  | nil =>
    obtain ⟨fuel, rfl⟩ := Nat.exists_eq_add_one_of_ne_zero (Nat.ne_zero_of_lt hfuel)
    rfl
  | cons f fs =>
    have hlength : (printAt l depth (.object (f :: fs))).length =
        (l.lineBreak (depth + 1)).length + (printText f.1).length + l.afterColon.length +
          (printAt l (depth + 1) f.2).length + (printFields l (depth + 1) fs).length +
          (l.lineBreak depth).length + 3 := by
      simp only [printAt, List.length_cons, List.length_append, List.length_nil]
      omega
    obtain ⟨fuel, rfl⟩ := Nat.exists_eq_add_one_of_ne_zero (n := fuel) (by omega)
    have hfields := fieldsFrom?_printed hl (h f List.mem_cons_self)
      (fun g hg => h g (List.mem_cons_of_mem f hg)) (depth + 1) fuel (hl.lineBreak depth) rest
      (by omega)
    have htext : printAt l depth (.object (f :: fs)) ++ rest =
        '\x7b' :: (l.lineBreak (depth + 1) ++ (printText f.1 ++ ':' :: (l.afterColon ++
          (printAt l (depth + 1) f.2 ++ (printFields l (depth + 1) fs ++
            (l.lineBreak depth ++ '\x7d' :: rest)))))) := by
      simp only [printAt, List.cons_append, List.append_assoc, List.nil_append]
    have hskip := skipGap_append (hl.lineBreak (depth + 1)) (printText f.1 ++ ':' ::
      (l.afterColon ++ (printAt l (depth + 1) f.2 ++ (printFields l (depth + 1) fs ++
        (l.lineBreak depth ++ '\x7d' :: rest)))))
    rw [printText, List.cons_append] at hskip hfields htext
    rw [skipGap_cons (by decide)] at hskip
    rw [htext, valueFrom?_object hskip, hfields]
    rfl

omit hl in
lemma readsAsTree_leaf {v : Json} (hv : NumberFree v)
    (h : ∀ depth fuel rest,
      valueFrom? (fuel + 1) (printAt l depth v ++ rest) = some (treeOf v, rest)) :
    ReadsAsTree l v := by
  intro depth fuel rest hfuel
  obtain ⟨c, cs, hfirst, -⟩ := exists_printAt_cons hv l depth
  rw [hfirst, List.length_cons] at hfuel
  obtain ⟨fuel, rfl⟩ := Nat.exists_eq_add_one_of_ne_zero (Nat.ne_zero_of_lt hfuel)
  exact h depth fuel rest

/-- The text of a value without numbers is read as the tree of the value, whatever follows it. -/
theorem readsAsTree {v : Json} (hv : NumberFree v) : ReadsAsTree l v := by
  induction hv with
  | null => exact readsAsTree_leaf .null fun _ _ _ => rfl
  | bool b => exact readsAsTree_leaf (.bool b) fun _ _ _ => by cases b <;> rfl
  | text s =>
    refine readsAsTree_leaf (.text s) fun depth fuel rest => ?_
    rw [printAt, printText, List.cons_append, List.append_assoc, List.singleton_append,
      valueFrom?_text, quoted?_printed]
    rfl
  | list h ih => exact readsAsTree_list hl h ih
  | object _ ih => exact readsAsTree_object hl ih

theorem ofText?_printAt {v : Json} (hv : NumberFree v) :
    Json.Syntax.ofText? (String.ofList (printAt l 0 v)) = some (treeOf v) := by
  have hread := readsAsTree hl hv 0 _ [] (Nat.le_succ (printAt l 0 v).length)
  rw [List.append_nil] at hread
  rw [Json.Syntax.ofText?, String.toList_ofList, hread]
  rfl

end

end ServiceLinker.Proofs
