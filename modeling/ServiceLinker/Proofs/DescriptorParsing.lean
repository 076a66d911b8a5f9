import Mathlib
import ServiceLinker.Linkage.Descriptor
import ServiceLinker.Proofs.PatternMatches

/-!
# Parsing descriptors

A descriptor is parsed from the leftmost attribute of its text that is closed and not empty, and
from no other: where that attribute names no type, the descriptor is refused whatever stands behind
it.
-/

namespace ServiceLinker.Proofs

open Text (after?)

/-! ### The service attribute -/

/-- The text starts with a closed attribute whose value is not empty. -/
def OpensAttribute (cs : List Char) (value : String) : Prop :=
  ∃ r, cs = "Service=\x22".toList ++ value.toList ++ ['\x22'] ++ r ∧
    value ≠ "" ∧ '\x22' ∉ value.toList

lemma takeWhile_ne_quote_iff {cs value : List Char} :
    cs.takeWhile (· ≠ '\x22') = value ∧ value.length ≠ cs.length ↔
      (∃ r, cs = value ++ '\x22' :: r) ∧ '\x22' ∉ value := by
  rw [takeWhile_eq_iff]
  constructor
  · rintro ⟨⟨r, rfl, hvalue, hr⟩, hlength⟩
    refine ⟨?_, fun hmem => by simpa using hvalue _ hmem⟩
    cases r with
    | nil => simp at hlength
    | cons c r =>
      have hc : c = '\x22' := by simpa using hr c rfl
      exact ⟨r, by rw [hc]⟩
  · rintro ⟨⟨r, rfl⟩, hmem⟩
    refine ⟨⟨_, rfl, ?_, by simp⟩, by simp⟩
    intro c hc
    have hne : c ≠ '\x22' := by
      rintro rfl
      exact hmem hc
    simpa using hne

lemma opensAttribute_iff {cs value : List Char} :
    OpensAttribute cs (.ofList value) ↔
      ∃ rest, cs = Pattern.attributeOpening ++ rest ∧ value ≠ [] ∧
        (∃ r, rest = value ++ '\x22' :: r) ∧ '\x22' ∉ value := by
  have hopening : "Service=\x22".toList = Pattern.attributeOpening := rfl
  rw [OpensAttribute, hopening, String.toList_ofList, ne_eq, ← String.toList_eq_nil_iff,
    String.toList_ofList]
  constructor
  · rintro ⟨r, hcs, hne, hquote⟩
    exact ⟨value ++ '\x22' :: r, by simp [hcs], hne, ⟨r, rfl⟩, hquote⟩
  · rintro ⟨rest, hcs, hne, ⟨r, hrest⟩, hquote⟩
    exact ⟨r, by simp [hcs, hrest], hne, hquote⟩

lemma attributeHere?_eq_some_iff {cs value : List Char} :
    Pattern.attributeHere? cs = some value ↔ OpensAttribute cs (.ofList value) := by
  simp only [opensAttribute_iff, ← takeWhile_ne_quote_iff]
  constructor
  · intro h
    unfold Pattern.attributeHere? at h
    split at h
    · next rest hrest =>
      dsimp only at h
      split_ifs at h with hvalue
      cases h
      simp only [Bool.or_eq_true, List.isEmpty_iff, decide_eq_true_eq, not_or] at hvalue
      exact ⟨rest, Text.after?_eq_some_iff.mp hrest, hvalue.1, rfl, hvalue.2⟩
    · cases h
  · rintro ⟨rest, hcs, hne, htake, hlength⟩
    rw [Pattern.attributeHere?, Text.after?_eq_some_iff.mpr hcs]
    dsimp only
    rw [htake, if_neg]
    simp [hne, hlength]

/-! ### Simple names -/

/-- The name stands behind the last point, or there is no point and it is all there is. -/
def IsLastPart (name qualified : String) : Prop :=
  '.' ∉ name.toList ∧ (qualified = name ∨ ∃ q, qualified = q ++ "." ++ name)

lemma simpleName_eq_iff {name qualified : String} :
    simpleName qualified = name ↔ IsLastPart name qualified := by
  have hbehind : ∀ q : String, qualified = q ++ "." ++ name ↔
      qualified.toList = q.toList ++ '.' :: name.toList := by
    intro q
    rw [← String.toList_inj]
    simp
  unfold simpleName IsLastPart
  cases hsplit : Text.splitLast? '.' qualified.toList with
  | none =>
    have hnone := Text.splitLast?_eq_none_iff.mp hsplit
    constructor
    · rintro rfl
      exact ⟨hnone, .inl rfl⟩
    · rintro ⟨-, rfl | ⟨q, hq⟩⟩
      · rfl
      · rw [(hbehind q).mp hq] at hnone
        simp at hnone
  | some split =>
    obtain ⟨before, part⟩ := split
    obtain ⟨hqualified, hpart⟩ := Text.splitLast?_eq_some_iff.mp hsplit
    constructor
    · rintro rfl
      refine ⟨by simpa using hpart, .inr ⟨.ofList before, ?_⟩⟩
      rw [hbehind, hqualified, String.toList_ofList, String.toList_ofList]
    · rintro ⟨hname, rfl | ⟨q, hq⟩⟩
      · rw [hqualified] at hname
        simp at hname
      · rw [(hbehind q).mp hq] at hsplit
        have hthere := (@Text.splitLast?_eq_some_iff '.' _ q.toList _).mpr ⟨rfl, hname⟩
        rw [hthere] at hsplit
        cases hsplit
        exact String.ofList_toList

lemma isLastPart_simpleName (qualified : String) : IsLastPart (simpleName qualified) qualified :=
  simpleName_eq_iff.mp rfl

/-! ### Descriptors -/

lemma serviceAttribute?_eq_some_iff {text value : String} :
    Pattern.serviceAttribute? text = some value ↔ Leftmost OpensAttribute text value :=
  leftmost?_iff_leftmost (fun _ _ => attributeHere?_eq_some_iff) text value

lemma parse_error {file : SourceFile} {e : LinkError}
    (h : ServiceDescriptor.parse file = .error e) : e = .descriptorAttributeMissing file.path := by
  unfold ServiceDescriptor.parse at h
  split at h
  · split_ifs at h
    cases h
    rfl
  · cases h
    rfl

lemma parse_eq_ok_iff {file : SourceFile} {d : ServiceDescriptor} :
    ServiceDescriptor.parse file = .ok d ↔
      d.path = file.path ∧ Leftmost OpensAttribute file.content d.declaredTypeName ∧
        d.simpleName ≠ "" := by
  obtain ⟨path, declared⟩ := d
  rw [← serviceAttribute?_eq_some_iff, ServiceDescriptor.parse, ServiceDescriptor.simpleName]
  cases Pattern.serviceAttribute? file.content with
  | none => simp
  | some value =>
    dsimp only
    rw [Option.some.injEq]
    by_cases hname : (simpleName value).isEmpty = true
    · rw [if_pos hname]
      rw [String.isEmpty_iff] at hname
      constructor
      · intro h
        cases h
      · rintro ⟨-, rfl, hne⟩
        exact absurd hname hne
    · rw [if_neg hname]
      rw [String.isEmpty_iff] at hname
      constructor
      · intro h
        cases h
        exact ⟨rfl, rfl, hname⟩
      · rintro ⟨hpath, rfl, -⟩
        rw [hpath]

lemma path_of_parse_ok {file : SourceFile} {d : ServiceDescriptor}
    (h : ServiceDescriptor.parse file = .ok d) : d.path = file.path :=
  (parse_eq_ok_iff.mp h).1

/-- A descriptor is parsed from the leftmost closed attribute with a value, and its simple name is
the last part of that value. If there is no such attribute, or the leftmost one names no type, the
file is refused under its path. -/
theorem parse_reads_leftmost (file : SourceFile) :
    (∀ value, Pattern.serviceAttribute? file.content = some value ↔
        Leftmost OpensAttribute file.content value) ∧
      (∀ d, ServiceDescriptor.parse file = .ok d ↔ d.path = file.path ∧
        Leftmost OpensAttribute file.content d.declaredTypeName ∧
        ∃ name, IsLastPart name d.declaredTypeName ∧ name ≠ "") ∧
      ((¬ ∃ value, Leftmost OpensAttribute file.content value ∧
          ∃ name, IsLastPart name value ∧ name ≠ "") →
        ServiceDescriptor.parse file = .error (.descriptorAttributeMissing file.path)) ∧
      ∀ d, ServiceDescriptor.parse file = .ok d →
        d.simpleName ≠ "" ∧ '.' ∉ d.simpleName.toList ∧ '\x22' ∉ d.simpleName.toList ∧
          (d.declaredTypeName = d.simpleName ∨
            ∃ q, d.declaredTypeName = q ++ "." ++ d.simpleName) := by
  have hnames : ∀ value, (∃ name, IsLastPart name value ∧ name ≠ "") ↔ simpleName value ≠ "" := by
    intro value
    simp only [← simpleName_eq_iff, exists_eq_left']
  have hparse : ∀ d, ServiceDescriptor.parse file = .ok d ↔ d.path = file.path ∧
      Leftmost OpensAttribute file.content d.declaredTypeName ∧
        ∃ name, IsLastPart name d.declaredTypeName ∧ name ≠ "" := by
    intro d
    rw [parse_eq_ok_iff, hnames]
    rfl
  refine ⟨fun _ => serviceAttribute?_eq_some_iff, hparse, ?_, ?_⟩
  · intro hnone
    cases hd : ServiceDescriptor.parse file with
    | error e => rw [parse_error hd]
    | ok d =>
      obtain ⟨-, hattribute, hname⟩ := (hparse d).mp hd
      exact absurd ⟨_, hattribute, hname⟩ hnone
  · intro d hd
    obtain ⟨-, hattribute, hname⟩ := parse_eq_ok_iff.mp hd
    obtain ⟨hpoint, hsplit⟩ := isLastPart_simpleName d.declaredTypeName
    obtain ⟨p, cs, -, ⟨r, -, -, hquote⟩, -⟩ := hattribute
    refine ⟨hname, hpoint, ?_, hsplit⟩
    intro hmem
    apply hquote
    rcases hsplit with hall | ⟨q, hbehind⟩
    · rw [hall]
      exact hmem
    · rw [hbehind, String.toList_append]
      exact List.mem_append_right _ hmem

/-- An empty attribute is passed over, and an attribute that names no type is not. -/
example :
    ServiceDescriptor.parse (.ofContent "a.svc" "Service=\x22\x22 Service=\x22S.A\x22") =
        .ok ⟨"a.svc", "S.A"⟩ ∧
      ServiceDescriptor.parse (.ofContent "a.svc" "Service=\x22S.\x22 Service=\x22S.A\x22") =
        .error (.descriptorAttributeMissing "a.svc") := by
  decide +kernel

end ServiceLinker.Proofs
