import Mathlib
import ServiceLinker.Document

/-!
# Records shown by documents

Readers of records rely on three things about a document format: where a text is shown, there is
that text; a shown list has shown items; and a shown object has shown fields of the same names.
This file follows from these how a shown record and a shown list are read, whatever the format is.
-/

namespace ServiceLinker.Proofs

variable {ν α : Type}

/-- What the format presents where a document shows a value. -/
structure Faithful (F : DocumentFormat ν) (shown : Json → ν → Prop) : Prop where
  text : ∀ {s m}, shown (.text s) m → F.text? m = some s
  list : ∀ {vs m}, shown (.list vs) m → ∃ ms, F.items? m = some ms ∧ List.Forall₂ shown vs ms
  object : ∀ {fs m}, shown (.object fs) m → ∀ names, ∃ gs, F.fields? names m = some gs ∧
    List.Forall₂ (fun f g => f.1 = g.1 ∧ shown f.2 g.2) fs gs

lemma lookup_of_shown {shown : Json → ν → Prop} {fs : List (String × Json)} {gs : Fields ν}
    (h : List.Forall₂ (fun f g => f.1 = g.1 ∧ shown f.2 g.2) fs gs) {name : String} {v : Json}
    (hv : fs.lookup name = some v) : ∃ m, gs.lookup name = some m ∧ shown v m := by
  induction h with
  | nil => simp at hv
  | @cons f g fs gs hfg _ ih =>
    obtain ⟨key, w⟩ := f
    obtain ⟨key', m⟩ := g
    obtain ⟨hkey, hm⟩ := hfg
    dsimp only at hkey hm
    subst hkey
    by_cases hname : name = key
    · subst hname
      rw [List.lookup_cons_self, Option.some.injEq] at hv
      subst hv
      exact ⟨m, List.lookup_cons_self, hm⟩
    · have hne : (name == key) = false := by simpa using hname
      rw [List.lookup_cons, hne] at hv ⊢
      exact ih hv

lemma required_of_lookup {gs : Fields ν} {name : String} {read : ν → Option α} {m : ν} {a : α}
    (h : gs.lookup name = some m) (hr : read m = some a) : gs.required name read = some a := by
  rw [Fields.required, h, Option.bind_some, hr]

section

variable {F : DocumentFormat ν} {shown : Json → ν → Prop} (hF : Faithful F shown)

include hF

/-- A shown object is a record with the fields of the object. -/
lemma record?_of_shown {fs : List (String × Json)} {m : ν} (names : List String)
    (hfs : (fs.map Prod.fst).Nodup) (h : shown (.object fs) m) :
    ∃ gs, F.record? names m = some gs ∧
      ∀ name v, fs.lookup name = some v → ∃ m, gs.lookup name = some m ∧ shown v m := by
  obtain ⟨gs, hgs, hall⟩ := hF.object h names
  have hkeys : gs.map Prod.fst = fs.map Prod.fst := by
    clear hfs h hgs
    induction hall with
    | nil => rfl
    | cons hfg _ ih => rw [List.map_cons, List.map_cons, ih, hfg.1]
  have hdistinct : Fields.distinct names gs = true := by
    rw [Fields.distinct, List.all_eq_true]
    intro name _
    have hcount : gs.countP (·.1 = name) = (gs.map Prod.fst).count name := by
      rw [List.count, List.countP_map]
      rfl
    rw [decide_eq_true_eq, hcount, hkeys]
    exact List.nodup_iff_count_le_one.mp hfs name
  refine ⟨gs, ?_, fun name v hv => lookup_of_shown hall hv⟩
  rw [DocumentFormat.record?, hgs, Option.bind_eq_bind, Option.bind_some, if_pos hdistinct]

lemma list?_of_shown {f : α → Json} {read : ν → Option α} {xs : List α} {m : ν}
    (hread : ∀ x ∈ xs, ∀ m, shown (f x) m → read m = some x)
    (h : shown (.list (xs.map f)) m) : F.list? read m = some xs := by
  obtain ⟨ms, hms, hall⟩ := hF.list h
  have hmap : ms.mapM read = some xs := by
    clear h hms
    induction xs generalizing ms with
    | nil =>
      cases hall
      rfl
    | cons x xs ih =>
      rw [List.map_cons] at hall
      cases hall with
      | cons hx hxs =>
        have hrest := ih (fun y hy => hread y (List.mem_cons_of_mem x hy)) _ hxs
        rw [List.mapM_cons, hread x List.mem_cons_self _ hx, hrest]
        rfl
  rw [DocumentFormat.list?, hms, Option.bind_eq_bind, Option.bind_some, hmap]

end

end ServiceLinker.Proofs
