import ServiceLinker.Proofs.BundleWriting

/-!
# The search for a free name

A bundle whose file name is taken inserts one name after another into the taken ones, until one is
new: first the name that also names its descriptor, then numbered ones. This file follows such a
search probe by probe. The names are all different and only the last one is new, so that a search
makes no more probes than names are taken, and its number stays as small; a number of 32 bits
counts alike.
-/

namespace ServiceLinker.Proofs

open ServiceBundle (ending baseName)

/-! ### Probes -/

/-- A search for a free name: the name that is probed, the number of the name after it, and the
names that are taken. -/
structure NameSearch (ν : Type) where
  name : String
  number : ν
  taken : Finset String

section

variable {ν : Type} [Add ν] [OfNat ν 1] [ToString ν]

/-- The search after a probe that was in vain: the name has been inserted, and the number is given
to the next name and counted up. -/
def NameSearch.next (base : String) (x : NameSearch ν) : NameSearch ν :=
  ⟨base ++ "." ++ toString x.number ++ ending, x.number + 1, insert x.name x.taken⟩

/-- The searches at each of at most `limit` probes. If the last of them inserts a new name, this is
the name that is found, together with the names that are taken then. -/
def probesFrom (base : String) :
    Nat → NameSearch ν → List (NameSearch ν) × Option (String × Finset String)
  | 0, _ => ([], none)
  | limit + 1, x =>
    if x.name ∈ x.taken then
      let later := probesFrom base limit (x.next base)
      (x :: later.1, later.2)
    else ([x], some (x.name, insert x.name x.taken))

/-- The probes for the name of a bundle, after its file name has been inserted. They are made only
if the file name was taken. -/
def nameSearch [OfNat ν 2] (b : ServiceBundle) (taken : Finset String) (limit : Nat) :
    List (NameSearch ν) × Option (String × Finset String) :=
  if b.fileName ∈ taken then
    probesFrom (baseName b.descriptorFileName) limit
      ⟨b.descriptorFileName, 2, insert b.fileName taken⟩
  else ([], some (b.fileName, insert b.fileName taken))

lemma probesFrom_of_mem {base : String} {limit : Nat} {x : NameSearch ν} (h : x.name ∈ x.taken) :
    probesFrom base (limit + 1) x = (x :: (probesFrom base limit (x.next base)).1,
      (probesFrom base limit (x.next base)).2) := if_pos h

lemma probesFrom_of_notMem {base : String} {limit : Nat} {x : NameSearch ν}
    (h : x.name ∉ x.taken) :
    probesFrom base (limit + 1) x = ([x], some (x.name, insert x.name x.taken)) := if_neg h

lemma mem_probesFrom (base : String) (limit : Nat) (x : NameSearch ν) :
    x ∈ (probesFrom base (limit + 1) x).1 := by
  by_cases h : x.name ∈ x.taken
  · rw [probesFrom_of_mem h]
    exact List.mem_cons_self
  · rw [probesFrom_of_notMem h]
    exact List.mem_cons_self

end

/-! ### The names that are probed -/

/-- The search that has come to the fallback name at a place. -/
def searchAt (b : ServiceBundle) (names : Finset String) (k : Nat) : NameSearch Nat :=
  ⟨b.fallbackName k, k + 2, names⟩

section

variable {b : ServiceBundle} {names : Finset String}

/-- A failed insertion leaves the names as they are. -/
lemma next_searchAt {k : Nat} (h : b.fallbackName k ∈ names) :
    (searchAt b names k).next (baseName b.descriptorFileName) = searchAt b names (k + 1) := by
  rw [NameSearch.next, searchAt, searchAt, Finset.insert_eq_of_mem h]
  rfl

lemma probesFrom_searchAt {k m limit : Nat} (hpassed : ∀ j < k + m, b.fallbackName j ∈ names)
    (hfree : b.fallbackName (k + m) ∉ names) (hlimit : m < limit) :
    probesFrom (baseName b.descriptorFileName) limit (searchAt b names k) =
      ((List.range' k (m + 1)).map (searchAt b names),
        some (b.fallbackName (k + m), insert (b.fallbackName (k + m)) names)) := by
  induction m generalizing k limit with
  | zero =>
    obtain ⟨limit, rfl⟩ := Nat.exists_eq_succ_of_ne_zero (Nat.ne_zero_of_lt hlimit)
    exact probesFrom_of_notMem hfree
  | succ m ih =>
    obtain ⟨limit, rfl⟩ := Nat.exists_eq_succ_of_ne_zero (Nat.ne_zero_of_lt hlimit)
    have htaken : b.fallbackName k ∈ names := hpassed k (by omega)
    have hplace : k + (m + 1) = k + 1 + m := by omega
    rw [hplace] at hpassed hfree ⊢
    have hprobe : probesFrom (baseName b.descriptorFileName) (limit + 1) (searchAt b names k) = _ :=
      probesFrom_of_mem htaken
    rw [next_searchAt htaken, ih hpassed hfree (Nat.lt_of_succ_lt_succ hlimit)] at hprobe
    exact hprobe

end

/-! ### Numbers of 32 bits -/

/-- The two searches probe the same name, and their numbers are equal. -/
structure CountsAlike (x : NameSearch Nat) (y : NameSearch Int32) : Prop where
  name : y.name = x.name
  number : y.number.toInt = x.number
  taken : y.taken = x.taken

lemma countsAlike_next {x : NameSearch Nat} {y : NameSearch Int32} (h : CountsAlike x y)
    (hsmall : x.number + 1 < 2 ^ 31) (base : String) : CountsAlike (x.next base) (y.next base) := by
  have hshown : toString y.number = toString x.number := by
    change toString y.number.toInt = _
    rw [h.number]
    rfl
  refine ⟨?_, ?_, ?_⟩
  · rw [NameSearch.next, NameSearch.next, hshown]
  · rw [NameSearch.next, NameSearch.next]
    dsimp only
    have hone : (1 : Int32).toInt = 1 := by decide
    rw [Int32.toInt_add, h.number, hone, Int.bmod_eq_of_le (by omega) (by omega)]
    rfl
  · rw [NameSearch.next, NameSearch.next, h.name, h.taken]

lemma countsAlike_probesFrom (base : String) {limit : Nat} {x : NameSearch Nat}
    {y : NameSearch Int32} (h : CountsAlike x y)
    (hsmall : ∀ z ∈ (probesFrom base limit x).1, z.number < 2 ^ 31) :
    List.Forall₂ CountsAlike (probesFrom base limit x).1 (probesFrom base limit y).1 ∧
      (probesFrom base limit y).2 = (probesFrom base limit x).2 := by
  induction limit generalizing x y with
  | zero => exact ⟨.nil, rfl⟩
  | succ limit ih =>
    by_cases htaken : x.name ∈ x.taken
    · have htaken' : y.name ∈ y.taken := by rwa [h.name, h.taken]
      rw [probesFrom_of_mem htaken] at hsmall ⊢
      rw [probesFrom_of_mem htaken']
      obtain ⟨-, hlater⟩ := List.forall_mem_cons.mp hsmall
      cases limit with
      | zero => exact ⟨.cons h .nil, rfl⟩
      | succ limit =>
        -- the next probe is made, so that its number is small
        have hnext := hlater (x.next base) (mem_probesFrom base limit (x.next base))
        obtain ⟨hcounts, hfound⟩ := ih (countsAlike_next h hnext base) hlater
        exact ⟨.cons h hcounts, hfound⟩
    · have htaken' : y.name ∉ y.taken := by rwa [h.name, h.taken]
      rw [probesFrom_of_notMem htaken, probesFrom_of_notMem htaken', h.name, h.taken]
      exact ⟨.cons h .nil, rfl⟩

/-! ### Searches of bundles -/

/-- No name is tried twice: neither the file name of a bundle nor one of its fallback names. -/
lemma nodup_tried (b : ServiceBundle) (count : Nat) :
    (b.fileName :: (List.range count).map b.fallbackName).Nodup := by
  refine List.nodup_cons.mpr ⟨?_, List.nodup_range.map (fallbackName_injective b)⟩
  intro hmem
  obtain ⟨k, -, hk⟩ := List.mem_map.mp hmem
  exact fileName_ne_fallbackName b k hk.symm

/-- A search finds the name that the bundle gets, and its probes are those of the fallback names up
to this one. All but the last of them are taken, and so is the file name. -/
lemma exists_nameSearch (b : ServiceBundle) (taken : List String) :
    ∃ count ≤ taken.toFinset.card, ∀ limit, count ≤ limit →
      nameSearch b taken.toFinset limit =
        ((List.range count).map (searchAt b taken.toFinset),
          some (b.freeName taken, insert (b.freeName taken) taken.toFinset)) := by
  have hfree := freeName_notMem taken b
  rcases freeName_cases taken b with ⟨hfile, heq⟩ | ⟨hfile, i, heq, hpassed⟩
  · refine ⟨0, Nat.zero_le _, fun limit _ => ?_⟩
    rw [nameSearch, if_neg (List.mem_toFinset.not.mpr hfile), heq]
    rfl
  · have hsubset : (b.fileName :: (List.range i).map b.fallbackName).toFinset ⊆
        taken.toFinset := by
      intro name hname
      rw [List.mem_toFinset] at hname ⊢
      rcases List.mem_cons.mp hname with rfl | hname
      · exact hfile
      · obtain ⟨j, hj, rfl⟩ := List.mem_map.mp hname
        exact hpassed j (List.mem_range.mp hj)
    have hcard := Finset.card_le_card hsubset
    rw [List.toFinset_card_of_nodup (nodup_tried b i), List.length_cons, List.length_map,
      List.length_range] at hcard
    refine ⟨i + 1, hcard, fun limit hlimit => ?_⟩
    rw [heq] at hfree ⊢
    have hprobes : probesFrom (baseName b.descriptorFileName) limit
        (searchAt b taken.toFinset 0) = _ :=
      probesFrom_searchAt (m := i) (fun j hj => List.mem_toFinset.mpr (hpassed j (by omega)))
        (by rwa [Nat.zero_add, List.mem_toFinset]) hlimit
    rw [Nat.zero_add, ← List.range_eq_range'] at hprobes
    rw [nameSearch, if_pos (List.mem_toFinset.mpr hfile),
      Finset.insert_eq_of_mem (List.mem_toFinset.mpr hfile)]
    exact hprobes

lemma countsAlike_nameSearch (b : ServiceBundle) (names : Finset String) (limit : Nat)
    (hsmall : ∀ x ∈ (nameSearch (ν := Nat) b names limit).1, x.number < 2 ^ 31) :
    List.Forall₂ CountsAlike (nameSearch b names limit).1 (nameSearch b names limit).1 ∧
      (nameSearch (ν := Int32) b names limit).2 = (nameSearch (ν := Nat) b names limit).2 := by
  unfold nameSearch at hsmall ⊢
  split_ifs at hsmall ⊢
  · have htwo : (2 : Int32).toInt = 2 := by decide
    exact countsAlike_probesFrom _ ⟨rfl, htwo, rfl⟩ hsmall
  · exact ⟨.nil, rfl⟩

/-- The search for the name of a bundle ends, whichever names are taken: it tries different names,
at most one more than are taken, and finds the name that the bundle gets. This name is new, and is
the only one that is taken besides afterwards. The number stays below that of the taken names and
three, and a number of 32 bits holds it if fewer than `2 ^ 31 - 3` names are taken. -/
theorem nameSearch_ends (b : ServiceBundle) (taken : List String) :
    let names := taken.toFinset
    let name := (b.chooseName taken).value
    ∃ probes : List (NameSearch Nat),
      (∀ limit, names.card ≤ limit →
        nameSearch b names limit = (probes, some (name, insert name names))) ∧
      name ∉ names ∧
      (b.fileName :: probes.map (·.name)).Nodup ∧
      (b.fileName :: probes.map (·.name)).length ≤ names.card + 1 ∧
      (∀ x ∈ probes, x.taken = names ∧ x.number < names.card + 3) ∧
      (names.card < 2 ^ 31 - 3 → ∀ limit, names.card ≤ limit →
        ∃ counted : List (NameSearch Int32),
          nameSearch b names limit = (counted, some (name, insert name names)) ∧
            List.Forall₂ CountsAlike probes counted) := by
  intro names name
  have hname : b.freeName taken = name := (value_chooseName b taken).symm
  obtain ⟨count, hcount, hsearch⟩ := exists_nameSearch b taken
  rw [hname] at hsearch
  have hprobe : ∀ x ∈ (List.range count).map (searchAt b names),
      x.taken = names ∧ x.number < names.card + 3 := by
    intro x hx
    obtain ⟨k, hk, rfl⟩ := List.mem_map.mp hx
    have hlt : k < names.card := (List.mem_range.mp hk).trans_le hcount
    exact ⟨rfl, Nat.lt_succ_of_lt (Nat.add_lt_add_right hlt 2)⟩
  have htried : ((List.range count).map (searchAt b names)).map (·.name) =
      (List.range count).map b.fallbackName := List.map_map
  refine ⟨(List.range count).map (searchAt b names),
    fun limit hlimit => hsearch limit (hcount.trans hlimit), ?_, ?_, ?_, hprobe, ?_⟩
  · rw [← hname, List.mem_toFinset]
    exact freeName_notMem taken b
  · rw [htried]
    exact nodup_tried b count
  · rw [htried, List.length_cons, List.length_map, List.length_range]
    exact Nat.succ_le_succ hcount
  · intro hcard limit hlimit
    have hfound := hsearch limit (hcount.trans hlimit)
    obtain ⟨hcounts, hsame⟩ := countsAlike_nameSearch b names limit (by
      rw [hfound]
      intro x hx
      have hx := (hprobe x hx).2
      omega)
    rw [hfound] at hcounts hsame
    exact ⟨_, Prod.ext rfl hsame, hcounts⟩

/-- A bundle whose file name, its name with the stem and the first numbered name are taken. -/
theorem nameSearch_ends_threeTaken :
    let b := plainBundle "A-B" "z/d.svc"
    let names := ["A_B.bundle.yaml", "A_B.d.bundle.yaml", "A_B.d.2.bundle.yaml"].toFinset
    (b.chooseName ["A_B.bundle.yaml", "A_B.d.bundle.yaml", "A_B.d.2.bundle.yaml"]).value =
        "A_B.d.3.bundle.yaml" ∧
      names.card < 2 ^ 31 - 3 ∧ names.card ≤ 3 ∧
      ∃ (probes : List (NameSearch Nat)) (counted : List (NameSearch Int32)),
        nameSearch b names 3 = (probes, some ("A_B.d.3.bundle.yaml",
          insert "A_B.d.3.bundle.yaml" names)) ∧
        nameSearch b names 3 = (counted, some ("A_B.d.3.bundle.yaml",
          insert "A_B.d.3.bundle.yaml" names)) ∧
        List.Forall₂ CountsAlike probes counted := by
  intro b names
  have hname : (b.chooseName ["A_B.bundle.yaml", "A_B.d.bundle.yaml",
      "A_B.d.2.bundle.yaml"]).value = "A_B.d.3.bundle.yaml" := by decide +kernel
  have hcard : names.card = 3 := by decide
  obtain ⟨probes, hsearch, -, -, -, -, hcounted⟩ := nameSearch_ends b
    ["A_B.bundle.yaml", "A_B.d.bundle.yaml", "A_B.d.2.bundle.yaml"]
  rw [hname] at hsearch hcounted
  have hsmall : names.card < 2 ^ 31 - 3 := by
    rw [hcard]
    decide
  obtain ⟨counted, hfound, hcounts⟩ := hcounted hsmall 3 hcard.le
  exact ⟨hname, hsmall, hcard.le, probes, counted, hsearch 3 hcard.le, hfound, hcounts⟩

end ServiceLinker.Proofs
