import ServiceLinker.Bundle.Basic
import ServiceLinker.Proofs.PathComponents

/-!
# Names of bundle files

A bundle gets a name that no earlier bundle of its run has, because the names that are tried in turn
are all different. Such a name has no characters but those that may stand in a file name and is a
single component, so that different names below one directory are different paths.
-/

namespace ServiceLinker.Proofs

/-! ### Endings -/

open ServiceBundle (isNameChar sanitize ending dropRepeated baseName firstFree)

lemma isFileName_append_ending {cs : List Char} (h : '/' ∉ cs) :
    IsFileName (cs ++ ending.toList) := by
  have hending : '/' ∉ ending.toList := by decide
  apply isFileName_of_length
  · exact fun hmem => (List.mem_append.mp hmem).elim h hending
  · rw [List.length_append]
    exact Nat.lt_add_left cs.length (by decide)

lemma notMem_of_isNameChar_eq_false {cs : List Char} {c : Char}
    (h : ∀ c ∈ cs, isNameChar c = true) (hc : isNameChar c = false) : c ∉ cs := by
  intro hmem
  rw [h c hmem] at hc
  cases hc

lemma isNameChar_of_isDigit {c : Char} (h : c.isDigit = true) : isNameChar c = true := by
  have hrange : 48 ≤ c.toNat ∧ c.toNat ≤ 57 := by
    simpa [Char.isDigit, Char.le_def, UInt32.le_iff_toNat_le] using h
  have hletter : Text.isAlphanumeric c = true := by
    change Text.CharClass.insideFrom c.toNat false (48 :: 58 :: _) = true
    rw [Text.CharClass.insideFrom, if_pos hrange.1, Text.CharClass.insideFrom,
      if_neg (by omega)]
    rfl
  rw [isNameChar, hletter]
  rfl

lemma isNameChar_of_mem_sanitize {s : String} {c : Char} (h : c ∈ (sanitize s).toList) :
    isNameChar c = true := by
  rw [sanitize, String.toList_ofList] at h
  obtain ⟨d, -, rfl⟩ := List.mem_map.mp h
  split_ifs with hd
  · exact hd
  · decide +kernel

lemma isNameChar_of_mem_ending {c : Char} (h : c ∈ ending.toList) : isNameChar c = true := by
  have hsanitize : sanitize ending = ending := by decide +kernel
  rw [← hsanitize] at h
  exact isNameChar_of_mem_sanitize h

/-- What is dropped from the front of a text is the repeated word some times. -/
lemma dropRepeated_eq (w : List Char) (fuel : Nat) (cs : List Char) :
    ∃ k, cs = (List.replicate k w).flatten ++ dropRepeated w fuel cs := by
  induction fuel generalizing cs with
  | zero => exact ⟨0, rfl⟩
  | succ fuel ih =>
    unfold dropRepeated
    cases hrest : Text.after? w cs with
    | none => exact ⟨0, rfl⟩
    | some rest =>
      obtain ⟨k, hk⟩ := ih rest
      refine ⟨k + 1, ?_⟩
      dsimp only
      rw [List.replicate_succ, List.flatten_cons, List.append_assoc, ← hk]
      exact Text.after?_eq_some_iff.mp hrest

/-- A word that is not empty is dropped as long as it is there: each time the text gets shorter. -/
lemma after?_dropRepeated {w : List Char} (hw : w ≠ []) {fuel : Nat} {cs : List Char}
    (h : cs.length ≤ fuel) : Text.after? w (dropRepeated w fuel cs) = none := by
  induction fuel generalizing cs with
  | zero =>
    obtain ⟨c, w, rfl⟩ := List.exists_cons_of_ne_nil hw
    rw [List.length_eq_zero_iff.mp (Nat.le_zero.mp h)]
    rfl
  | succ fuel ih =>
    unfold dropRepeated
    cases hrest : Text.after? w cs with
    | none => exact hrest
    | some rest =>
      apply ih
      have hlength := List.length_pos_iff.mpr hw
      rw [Text.after?_eq_some_iff.mp hrest, List.length_append] at h
      omega

/-- A file name is its base and then the ending some times, and the base does not end so. -/
lemma toList_baseName (name : String) :
    (∃ k, name.toList = (baseName name).toList ++ (List.replicate k ending.toList).flatten) ∧
      ¬ ending.toList <:+ (baseName name).toList := by
  rw [baseName, String.toList_ofList]
  refine ⟨?_, ?_⟩
  · obtain ⟨k, hk⟩ := dropRepeated_eq ending.toList.reverse name.length name.toList.reverse
    refine ⟨k, ?_⟩
    have hreverse := congrArg List.reverse hk
    rwa [List.reverse_reverse, List.reverse_append, List.reverse_flatten, List.map_replicate,
      List.reverse_replicate, List.reverse_reverse] at hreverse
  · rintro ⟨front, hfront⟩
    have hdropped := congrArg List.reverse hfront
    rw [List.reverse_append, List.reverse_reverse] at hdropped
    have hlength : name.toList.reverse.length ≤ name.length := by
      rw [List.length_reverse, String.length_toList]
    have hnone := after?_dropRepeated (w := ending.toList.reverse) (by decide) hlength
    rw [← hdropped, Text.after?_eq_some_iff.mpr rfl] at hnone
    cases hnone

/-! ### Free names -/

lemma toList_fallbackName_succ (b : ServiceBundle) (k : Nat) :
    (b.fallbackName (k + 1)).toList = (baseName b.descriptorFileName).toList ++
      '.' :: (Nat.toDigits 10 (k + 2) ++ ending.toList) := by
  rw [ServiceBundle.fallbackName, String.toList_append, toList_pointed, Nat.toString_eq_repr,
    Nat.toList_repr, List.append_assoc, List.cons_append]

lemma toList_descriptorFileName (b : ServiceBundle) :
    b.descriptorFileName.toList = (sanitize b.qualifiedName).toList ++
      '.' :: ((sanitize (Path.stem b.descriptor.path)).toList ++ ending.toList) := by
  rw [ServiceBundle.descriptorFileName, String.toList_append, toList_pointed, List.append_assoc,
    List.cons_append]

/-- A number does not stand where an ending does, which has a letter for its first digit. -/
lemma number_ne_endings (n times : Nat) (rest : List Char) :
    '.' :: (Nat.toDigits 10 n ++ rest) ≠ (List.replicate times ending.toList).flatten := by
  intro hnumber
  cases times with
  | zero => cases hnumber
  | succ times =>
    obtain ⟨digit, digits, hdigits⟩ := List.exists_cons_of_ne_nil
      (Nat.toDigits_ne_nil (b := 10) (n := n))
    have hdigit : digit.isDigit = true := by
      apply Nat.isDigit_of_mem_toDigits (b := 10) (n := n) (by decide) (by decide)
      rw [hdigits]
      exact List.mem_cons_self
    have hending : ending.toList = '.' :: 'b' :: "undle.yaml".toList := by decide
    rw [List.replicate_succ, List.flatten_cons, hdigits, hending, List.cons_append,
      List.cons_append, List.cons_append, List.cons.injEq, List.cons.injEq] at hnumber
    rw [hnumber.2.1] at hdigit
    exact absurd hdigit (by decide)

lemma fallbackName_zero_ne_succ (b : ServiceBundle) (k : Nat) :
    b.fallbackName 0 ≠ b.fallbackName (k + 1) := by
  intro heq
  obtain ⟨times, htimes⟩ := (toList_baseName b.descriptorFileName).1
  have htexts : (baseName b.descriptorFileName).toList ++
        '.' :: (Nat.toDigits 10 (k + 2) ++ ending.toList) =
      (baseName b.descriptorFileName).toList ++
        (List.replicate times ending.toList).flatten := by
    rw [← htimes, ← toList_fallbackName_succ, ← heq]
    rfl
  exact number_ne_endings _ _ _ (List.append_cancel_left htexts)

/-- The file name of a bundle is none of its fallback names: behind the base of these there would
have to stand a number and an ending at once. -/
lemma fileName_ne_fallbackName (b : ServiceBundle) (k : Nat) : b.fileName ≠ b.fallbackName k := by
  intro heq
  have hlist := congrArg String.toList heq
  rw [ServiceBundle.fileName, String.toList_append] at hlist
  cases k with
  | zero =>
    rw [ServiceBundle.fallbackName, toList_descriptorFileName, List.append_cancel_left_eq] at hlist
    have hlength := congrArg List.length hlist
    rw [List.length_cons, List.length_append] at hlength
    omega
  | succ k =>
    obtain ⟨times, htimes⟩ := (toList_baseName b.descriptorFileName).1
    rw [toList_fallbackName_succ, ← List.cons_append, ← List.append_assoc,
      List.append_cancel_right_eq] at hlist
    rw [toList_descriptorFileName, hlist, List.append_assoc, List.append_cancel_left_eq,
      List.cons_append] at htimes
    exact number_ne_endings _ _ _ htimes

lemma fallbackName_injective (b : ServiceBundle) : Function.Injective b.fallbackName := by
  intro i j heq
  cases i with
  | zero =>
    cases j with
    | zero => rfl
    | succ j => exact absurd heq (fallbackName_zero_ne_succ b j)
  | succ i =>
    cases j with
    | zero => exact absurd heq.symm (fallbackName_zero_ne_succ b i)
    | succ j =>
      have hlist := congrArg String.toList heq
      rw [toList_fallbackName_succ, toList_fallbackName_succ, List.append_cancel_left_eq,
        List.cons.injEq, List.append_cancel_right_eq, ← Nat.toList_repr, ← Nat.toList_repr,
        String.toList_inj, Nat.repr_inj] at hlist
      omega

/-- One more different candidates than there are taken names contain a free one. -/
lemma firstFree_notMem {taken : List String} {candidate : Nat → String}
    (h : Function.Injective candidate) :
    firstFree taken candidate (taken.length + 1) 0 ∉ taken := by
  rcases ServiceBundle.firstFree_notMem_or taken candidate taken.length 0 with hfree | hall
  · exact hfree
  · have hnodup : ((List.range (taken.length + 1)).map candidate).Nodup :=
      List.nodup_range.map h
    have hsubset : (List.range (taken.length + 1)).map candidate ⊆ taken := by
      intro name hname
      obtain ⟨i, hi, rfl⟩ := List.mem_map.mp hname
      have htaken := hall i (Nat.le_of_lt_succ (List.mem_range.mp hi))
      rwa [Nat.zero_add] at htaken
    have hlength := (hnodup.subperm hsubset).length_le
    rw [List.length_map, List.length_range] at hlength
    omega

/-- A bundle gets a name that is not taken. -/
theorem freeName_notMem (taken : List String) (b : ServiceBundle) : b.freeName taken ∉ taken := by
  unfold ServiceBundle.freeName
  split_ifs with htaken
  · exact firstFree_notMem (fallbackName_injective b)
  · exact htaken

/-- The search passes over taken candidates only. -/
lemma exists_firstFree_eq (taken : List String) (candidate : Nat → String) (fuel k : Nat) :
    ∃ i, firstFree taken candidate fuel k = candidate i ∧
      ∀ j, k ≤ j → j < i → candidate j ∈ taken := by
  induction fuel generalizing k with
  | zero => exact ⟨k, rfl, fun j hk hj => absurd hj (Nat.not_lt.mpr hk)⟩
  | succ fuel ih =>
    unfold firstFree
    split_ifs with htaken
    · obtain ⟨i, hi, hpassed⟩ := ih (k + 1)
      refine ⟨i, hi, ?_⟩
      intro j hk hj
      rcases Nat.eq_or_lt_of_le hk with rfl | hk
      · exact htaken
      · exact hpassed j hk hj
    · exact ⟨k, rfl, fun j hk hj => absurd hj (Nat.not_lt.mpr hk)⟩

/-- A bundle gets its file name, or the first of its fallback names that is free. -/
lemma freeName_cases (taken : List String) (b : ServiceBundle) :
    (b.fileName ∉ taken ∧ b.freeName taken = b.fileName) ∨
      (b.fileName ∈ taken ∧ ∃ i, b.freeName taken = b.fallbackName i ∧
        ∀ j < i, b.fallbackName j ∈ taken) := by
  unfold ServiceBundle.freeName
  split_ifs with htaken
  · obtain ⟨i, hi, hpassed⟩ := exists_firstFree_eq taken b.fallbackName (taken.length + 1) 0
    exact .inr ⟨htaken, i, hi, fun j hj => hpassed j (Nat.zero_le j) hj⟩
  · exact .inl ⟨htaken, rfl⟩

/-! ### Texts of free names -/

lemma isNameChar_of_mem_fileName {b : ServiceBundle} {c : Char} (h : c ∈ b.fileName.toList) :
    isNameChar c = true := by
  rw [ServiceBundle.fileName, String.toList_append] at h
  rcases List.mem_append.mp h with h | h
  · exact isNameChar_of_mem_sanitize h
  · exact isNameChar_of_mem_ending h

lemma isNameChar_of_mem_descriptorFileName {b : ServiceBundle} {c : Char}
    (h : c ∈ b.descriptorFileName.toList) : isNameChar c = true := by
  rw [toList_descriptorFileName, List.mem_append, List.mem_cons, List.mem_append] at h
  rcases h with h | rfl | h | h
  · exact isNameChar_of_mem_sanitize h
  · decide +kernel
  · exact isNameChar_of_mem_sanitize h
  · exact isNameChar_of_mem_ending h

lemma isNameChar_of_mem_fallbackName {b : ServiceBundle} {k : Nat} {c : Char}
    (h : c ∈ (b.fallbackName k).toList) : isNameChar c = true := by
  cases k with
  | zero => exact isNameChar_of_mem_descriptorFileName h
  | succ k =>
    rw [toList_fallbackName_succ, List.mem_append, List.mem_cons, List.mem_append] at h
    rcases h with h | rfl | h | h
    · obtain ⟨times, htimes⟩ := (toList_baseName b.descriptorFileName).1
      apply isNameChar_of_mem_descriptorFileName (b := b)
      rw [htimes]
      exact List.mem_append_left _ h
    · decide +kernel
    · exact isNameChar_of_isDigit (Nat.isDigit_of_mem_toDigits (by decide) (by decide) h)
    · exact isNameChar_of_mem_ending h

/-- Whatever its bundle is called, the name of a bundle file has no other characters than those
that may stand in one. -/
lemma isNameChar_of_mem_freeName {taken : List String} {b : ServiceBundle} {c : Char}
    (h : c ∈ (b.freeName taken).toList) : isNameChar c = true := by
  rcases freeName_cases taken b with ⟨-, heq⟩ | ⟨-, k, heq, -⟩
  · rw [heq] at h
    exact isNameChar_of_mem_fileName h
  · rw [heq] at h
    exact isNameChar_of_mem_fallbackName h

lemma exists_toList_freeName (taken : List String) (b : ServiceBundle) :
    ∃ front, (b.freeName taken).toList = front ++ ending.toList := by
  rcases freeName_cases taken b with ⟨-, heq⟩ | ⟨-, k, heq, -⟩
  · rw [heq]
    exact ⟨_, String.toList_append⟩
  · rw [heq]
    cases k with
    | zero => exact ⟨_, String.toList_append⟩
    | succ k =>
      refine ⟨(baseName b.descriptorFileName).toList ++ '.' :: Nat.toDigits 10 (k + 2), ?_⟩
      rw [toList_fallbackName_succ, List.append_assoc, List.cons_append]

theorem isFileName_freeName (taken : List String) (b : ServiceBundle) :
    IsFileName (b.freeName taken).toList := by
  obtain ⟨front, hfront⟩ := exists_toList_freeName taken b
  have hslash : '/' ∉ (b.freeName taken).toList :=
    notMem_of_isNameChar_eq_false (fun _ => isNameChar_of_mem_freeName) (by decide +kernel)
  rw [hfront] at hslash ⊢
  exact isFileName_append_ending fun hmem => hslash (List.mem_append_left _ hmem)

/-- Whatever its bundle is called, a bundle file has one extension. -/
theorem extension?_freeName (taken : List String) (b : ServiceBundle) :
    Path.extension? (b.freeName taken) = some "yaml" := by
  obtain ⟨front, hfront⟩ := exists_toList_freeName taken b
  rw [extension?_eq_some_iff]
  refine ⟨front ++ ".bundle".toList, List.append_ne_nil_of_right_ne_nil front (by decide),
    by decide, ?_⟩
  rw [fileName?_of_isFileName (isFileName_freeName taken b), hfront, List.append_assoc]
  rfl

/-! ### The names of a run -/

/-- The names that bundles get beside those that are taken. -/
def bundleNames : List String → List ServiceBundle → List String
  | _, [] => []
  | taken, b :: bs => b.freeName taken :: bundleNames (b.freeName taken :: taken) bs

lemma length_bundleNames (taken : List String) (bs : List ServiceBundle) :
    (bundleNames taken bs).length = bs.length := by
  induction bs generalizing taken with
  | nil => rfl
  | cons b bs ih => rw [bundleNames, List.length_cons, ih, List.length_cons]

/-- Every name of a run is a free name. -/
lemma exists_of_mem_bundleNames {taken : List String} {bs : List ServiceBundle} {name : String}
    (h : name ∈ bundleNames taken bs) :
    ∃ earlier b, taken ⊆ earlier ∧ name = ServiceBundle.freeName earlier b := by
  induction bs generalizing taken with
  | nil => cases h
  | cons b bs ih =>
    rcases List.mem_cons.mp h with rfl | h
    · exact ⟨taken, b, List.Subset.refl taken, rfl⟩
    · obtain ⟨earlier, b', hsubset, hname⟩ := ih h
      exact ⟨earlier, b', fun name hmem => hsubset (List.mem_cons_of_mem _ hmem), hname⟩

lemma notMem_of_mem_bundleNames {taken : List String} {bs : List ServiceBundle} {name : String}
    (h : name ∈ bundleNames taken bs) : name ∉ taken := by
  obtain ⟨earlier, b, hsubset, rfl⟩ := exists_of_mem_bundleNames h
  exact fun hmem => freeName_notMem earlier b (hsubset hmem)

lemma extension?_of_mem_bundleNames {taken : List String} {bs : List ServiceBundle} {name : String}
    (h : name ∈ bundleNames taken bs) : Path.extension? name = some "yaml" := by
  obtain ⟨earlier, b, -, rfl⟩ := exists_of_mem_bundleNames h
  exact extension?_freeName earlier b

end ServiceLinker.Proofs
