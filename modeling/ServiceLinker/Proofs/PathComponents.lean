import Mathlib
import ServiceLinker.Path

/-!
# Components of paths

A name below a directory is the last component of a path whose other components are those of the
directory. So different names below one directory are different paths, and the directory above such
a path is the one that the name was joined to. Of any path, the file name is what stands behind its
directories and before nothing but slashes and single points; it falls into stem and extension at
its last point.
-/

namespace ServiceLinker.Proofs

open ServiceLinker.Path (Component segments component? componentsOf components fileName?
  ofComponents parent? splitName? extension?)

/-! ### Segments -/

lemma segments_ne_nil (cs : List Char) : segments cs ≠ [] := by
  cases cs with
  | nil => exact List.cons_ne_nil _ _
  | cons c cs =>
    unfold segments
    split_ifs with hc
    · exact List.cons_ne_nil _ _
    · split <;> exact List.cons_ne_nil _ _

lemma segments_of_notMem {cs : List Char} (h : '/' ∉ cs) : segments cs = [cs] := by
  induction cs with
  | nil => rfl
  | cons c cs ih =>
    have hc : c ≠ '/' := fun hc => h (hc ▸ List.mem_cons_self)
    rw [segments, if_neg hc, ih fun hmem => h (List.mem_cons_of_mem c hmem)]

lemma segments_append_slash (above cs : List Char) :
    segments (above ++ '/' :: cs) = segments above ++ segments cs := by
  induction above with
  | nil => rfl
  | cons c above ih =>
    rw [List.cons_append]
    by_cases hc : c = '/'
    · rw [segments, if_pos hc, segments, if_pos hc, ih, List.cons_append]
    · rw [segments, if_neg hc, segments, if_neg hc, ih]
      cases hsegments : segments above with
      | nil => exact absurd hsegments (segments_ne_nil above)
      | cons s ss => rfl

lemma slash_notMem_of_mem_segments {cs s : List Char} (h : s ∈ segments cs) : '/' ∉ s := by
  induction cs generalizing s with
  | nil =>
    rw [List.mem_singleton.mp h]
    exact List.not_mem_nil
  | cons c cs ih =>
    unfold segments at h
    split_ifs at h with hc
    · rcases List.mem_cons.mp h with rfl | h
      · exact List.not_mem_nil
      · exact ih h
    · cases hsegments : segments cs with
      | nil => exact absurd hsegments (segments_ne_nil cs)
      | cons first rest =>
        rw [hsegments] at h ih
        rcases List.mem_cons.mp h with rfl | h
        · rw [List.mem_cons, not_or]
          exact ⟨Ne.symm hc, ih List.mem_cons_self⟩
        · exact ih (List.mem_cons_of_mem first h)

lemma segments_intercalate {texts : List (List Char)} (hne : texts ≠ [])
    (h : ∀ s ∈ texts, '/' ∉ s) : segments (['/'].intercalate texts) = texts := by
  induction texts with
  | nil => exact absurd rfl hne
  | cons s texts ih =>
    have hs : '/' ∉ s := h s List.mem_cons_self
    cases texts with
    | nil => rw [List.intercalate_singleton, segments_of_notMem hs]
    | cons other texts =>
      have hrest := ih (List.cons_ne_nil _ _) fun s' hs' => h s' (List.mem_cons_of_mem s hs')
      rw [List.intercalate_cons_cons, List.append_assoc, List.singleton_append,
        segments_append_slash, segments_of_notMem hs, hrest]
      rfl

/-- Whatever stands above them, texts between slashes are the last segments. -/
lemma segments_intercalate_append (above : List (List Char)) {texts : List (List Char)}
    (hne : texts ≠ []) (h : ∀ s ∈ texts, '/' ∉ s) :
    ∃ ss, segments (['/'].intercalate (above ++ texts)) = ss ++ texts := by
  induction above with
  | nil => exact ⟨[], segments_intercalate hne h⟩
  | cons s above ih =>
    obtain ⟨ss, hss⟩ := ih
    obtain ⟨next, rest, hrest⟩ :=
      List.exists_cons_of_ne_nil (List.append_ne_nil_of_right_ne_nil above hne)
    refine ⟨segments s ++ ss, ?_⟩
    rw [List.cons_append, hrest, List.intercalate_cons_cons, List.append_assoc,
      List.singleton_append, segments_append_slash, ← hrest, hss, List.append_assoc]

lemma intercalate_segments (cs : List Char) : ['/'].intercalate (segments cs) = cs := by
  induction cs with
  | nil => rfl
  | cons c cs ih =>
    obtain ⟨s, ss, hsegments⟩ := List.exists_cons_of_ne_nil (segments_ne_nil cs)
    rw [hsegments] at ih
    rw [segments, hsegments]
    dsimp only
    split_ifs with hc
    · rw [List.intercalate_cons_cons, ih, hc]
      rfl
    · cases ss with
      | nil => rw [List.intercalate_singleton, ← ih, List.intercalate_singleton]
      | cons next ss =>
        rw [List.intercalate_cons_cons, ← ih, List.intercalate_cons_cons]
        rfl

/-! ### Files below a directory -/

lemma toList_pointed (s t : String) : (s ++ "." ++ t).toList = s.toList ++ '.' :: t.toList := by
  have hpoint : ".".toList = ['.'] := by decide
  rw [String.toList_append, String.toList_append, hpoint, List.append_assoc,
    List.singleton_append]

/-- The text is one component of a path that names something. -/
def IsFileName (cs : List Char) : Prop :=
  '/' ∉ cs ∧ component? cs = some (.name cs)

lemma isFileName_of_length {cs : List Char} (h : '/' ∉ cs) (hlength : 2 < cs.length) :
    IsFileName cs := by
  have hlong : ∀ short : List Char, short.length ≤ 2 → cs ≠ short := by
    rintro short hshort rfl
    omega
  refine ⟨h, ?_⟩
  unfold component?
  rw [if_neg (hlong _ (by decide)), if_neg (hlong _ (by decide)), if_neg (hlong _ (by decide))]

/-- What a path starts with is never its last name. -/
lemma getLast?_componentsOf_iff {cs name : List Char} :
    (componentsOf cs).getLast? = some (.name name) ↔
      ((segments cs).filterMap component?).getLast? = some (.name name) := by
  unfold componentsOf
  dsimp only
  generalize (segments cs).filterMap component? = body
  cases body with
  | nil => split_ifs <;> simp
  | cons c body => split_ifs <;> simp [List.getLast?_cons_cons]

lemma getLast?_componentsOf {cs name : List Char} (hname : IsFileName name)
    (above : List (List Char)) (h : segments cs = above ++ [name]) :
    (componentsOf cs).getLast? = some (.name name) := by
  rw [getLast?_componentsOf_iff, h, List.filterMap_append, List.filterMap_cons_some hname.2]
  exact List.getLast?_concat

lemma componentsOf_slash_cons (cs : List Char) :
    componentsOf ('/' :: cs) = .root :: (segments cs).filterMap component? := by
  unfold componentsOf
  dsimp only
  rw [segments, if_pos rfl, List.head?_cons, if_pos rfl, List.filterMap_cons_none (by rfl)]

lemma componentsOf_append_slash {above : List Char} (h : above ≠ []) (cs : List Char) :
    componentsOf (above ++ '/' :: cs) =
      componentsOf above ++ (segments cs).filterMap component? := by
  have htext : (above ++ '/' :: cs).head? = above.head? := List.head?_append_of_ne_nil above h
  have hsegments : (segments above ++ segments cs).head? = (segments above).head? :=
    List.head?_append_of_ne_nil _ (segments_ne_nil above)
  unfold componentsOf
  dsimp only
  rw [segments_append_slash, List.filterMap_append, htext, hsegments]
  split_ifs <;> rfl

lemma filterMap_segments_of_isFileName {name : List Char} (h : IsFileName name) :
    (segments name).filterMap component? = [.name name] := by
  rw [segments_of_notMem h.1, List.filterMap_cons_some h.2, List.filterMap_nil]

lemma componentsOf_of_isFileName {name : List Char} (h : IsFileName name) :
    componentsOf name = [.name name] := by
  have hslash : name.head? ≠ some '/' := fun hhead => h.1 (List.mem_of_head? hhead)
  have hhere : (segments name).head? ≠ some ['.'] := by
    rw [segments_of_notMem h.1, List.head?_cons, ne_eq, Option.some.injEq]
    intro heq
    have hcomponent := h.2
    rw [heq] at hcomponent
    cases hcomponent
  unfold componentsOf
  dsimp only
  rw [if_neg hslash, if_neg hhere, filterMap_segments_of_isFileName h]

lemma fileName?_of_isFileName {name : String} (h : IsFileName name.toList) :
    fileName? name = some name.toList := by
  rw [fileName?, components, componentsOf_of_isFileName h]
  rfl

lemma toList_join (directory : String) {name : String} (h : '/' ∉ name.toList) :
    (Path.join directory name).toList = name.toList ∨
      ∃ above, (Path.join directory name).toList = above ++ '/' :: name.toList := by
  have hhead : name.toList.head? ≠ some '/' := fun hhead => h (List.mem_of_head? hhead)
  unfold Path.join
  rw [if_neg hhead]
  split_ifs with hempty hlast
  · exact .inl rfl
  · obtain ⟨above, habove⟩ := List.getLast?_eq_some_iff.mp hlast
    refine .inr ⟨above, ?_⟩
    rw [String.toList_append, habove, List.append_assoc]
    rfl
  · refine .inr ⟨directory.toList, ?_⟩
    rw [String.toList_append, String.toList_append, List.append_assoc]
    rfl

/-- A path below a directory adds the components of its segments. -/
lemma components_join_relative {directory path : String} (hne : directory ≠ "")
    (hhead : path.toList.head? ≠ some '/') :
    components (Path.join directory path) =
      components directory ++ (segments path.toList).filterMap component? := by
  have hempty : ¬directory.isEmpty = true := fun h => hne (String.isEmpty_iff.mp h)
  unfold Path.join components
  rw [if_neg hhead, if_neg hempty]
  split_ifs with hlast
  · obtain ⟨above, habove⟩ := List.getLast?_eq_some_iff.mp hlast
    rw [String.toList_append, habove, List.append_assoc, List.singleton_append]
    -- the slash at the end of a directory counts only where it is all of it
    by_cases hnil : above = []
    · rw [hnil, List.nil_append, List.nil_append, componentsOf_slash_cons, componentsOf_slash_cons]
      rfl
    · rw [componentsOf_append_slash hnil, componentsOf_append_slash hnil, List.append_assoc]
      rfl
  · have hnil : directory.toList ≠ [] := fun hnil => hne (String.toList_eq_nil_iff.mp hnil)
    rw [String.toList_append, String.toList_append, List.append_assoc]
    change componentsOf (directory.toList ++ '/' :: path.toList) = _
    rw [componentsOf_append_slash hnil]

/-- A name below a directory is one more component. -/
lemma components_join (directory : String) {name : String} (h : IsFileName name.toList) :
    components (Path.join directory name) = components directory ++ [.name name.toList] := by
  have hhead : name.toList.head? ≠ some '/' := fun hhead => h.1 (List.mem_of_head? hhead)
  by_cases hempty : directory = ""
  · rw [Path.join, if_neg hhead, if_pos (String.isEmpty_iff.mpr hempty), hempty, components,
      componentsOf_of_isFileName h]
    rfl
  · rw [components_join_relative hempty hhead, filterMap_segments_of_isFileName h]

/-- Different names below one directory are different paths. -/
lemma components_join_injOn (directory : String) {name name' : String}
    (h : IsFileName name.toList) (h' : IsFileName name'.toList)
    (heq : components (Path.join directory name) = components (Path.join directory name')) :
    name = name' := by
  rw [components_join directory h, components_join directory h', List.append_cancel_left_eq,
    List.cons.injEq, Component.name.injEq] at heq
  exact String.toList_inj.mp heq.1

/-! ### The directory above -/

lemma text_of_component? {s : List Char} {c : Component} (h : component? s = some c) :
    c.text = s := by
  unfold component? at h
  split_ifs at h with _ _ hup
  · cases h
    exact hup.symm
  · cases h
    rfl

lemma of_mem_filterMap_segments {cs : List Char} {c : Component}
    (h : c ∈ (segments cs).filterMap component?) :
    component? c.text = some c ∧ '/' ∉ c.text := by
  obtain ⟨s, hs, hc⟩ := List.mem_filterMap.mp h
  rw [text_of_component? hc]
  exact ⟨hc, slash_notMem_of_mem_segments hs⟩

section

variable {body : List Component} (h : ∀ c ∈ body, component? c.text = some c ∧ '/' ∉ c.text)

include h

lemma filterMap_texts : (body.map Component.text).filterMap component? = body := by
  induction body with
  | nil => rfl
  | cons c body ih =>
    rw [List.map_cons, List.filterMap_cons_some (h c List.mem_cons_self).1,
      ih fun c' hc' => h c' (List.mem_cons_of_mem c hc')]

lemma segments_intercalate_texts (hne : body ≠ []) :
    segments (['/'].intercalate (body.map Component.text)) = body.map Component.text := by
  apply segments_intercalate
  · exact fun hnil => hne (List.map_eq_nil_iff.mp hnil)
  · intro s hs
    obtain ⟨c, hc, rfl⟩ := List.mem_map.mp hs
    exact (h c hc).2

/-- Names and steps upwards are read back from their text as those of a relative path. -/
lemma componentsOf_texts :
    componentsOf (['/'].intercalate (body.map Component.text)) = body := by
  cases body with
  | nil => rfl
  | cons c body =>
    have hsegments := segments_intercalate_texts h (List.cons_ne_nil c body)
    have hcomponent := (h c List.mem_cons_self).1
    have hslash : (['/'].intercalate ((c :: body).map Component.text)).head? ≠ some '/' := by
      intro hhead
      obtain ⟨rest, hrest⟩ := List.head?_eq_some_iff.mp hhead
      rw [hrest, segments, if_pos rfl, List.map_cons, List.cons.injEq] at hsegments
      rw [← hsegments.1] at hcomponent
      cases hcomponent
    have hhere : (segments (['/'].intercalate ((c :: body).map Component.text))).head? ≠
        some ['.'] := by
      intro hhead
      rw [hsegments, List.map_cons, List.head?_cons, Option.some.injEq] at hhead
      rw [hhead] at hcomponent
      cases hcomponent
    unfold componentsOf
    dsimp only
    rw [if_neg hslash, if_neg hhere, hsegments, filterMap_texts h]

lemma componentsOf_root_texts (hne : body ≠ []) :
    componentsOf (['/'].intercalate ((.root :: body).map Component.text)) = .root :: body := by
  obtain ⟨c, rest, rfl⟩ := List.exists_cons_of_ne_nil hne
  have htext : ['/'].intercalate ((.root :: c :: rest).map Component.text) =
      '/' :: ['/'].intercalate ((c :: rest).map Component.text) := by
    rw [List.map_cons, List.map_cons, List.intercalate_cons_cons]
    rfl
  rw [htext, componentsOf_slash_cons, segments_intercalate_texts h hne, filterMap_texts h]

lemma componentsOf_here_texts :
    componentsOf (['/'].intercalate ((.here :: body).map Component.text)) = .here :: body := by
  cases body with
  | nil => rfl
  | cons c body =>
    have htext : ['/'].intercalate ((.here :: c :: body).map Component.text) =
        ['.'] ++ '/' :: ['/'].intercalate ((c :: body).map Component.text) := by
      rw [List.map_cons, List.map_cons, List.intercalate_cons_cons, List.append_assoc]
      rfl
    have hhere : componentsOf ['.'] = [.here] := by decide
    rw [htext, componentsOf_append_slash (List.cons_ne_nil _ _), hhere,
      segments_intercalate_texts h (List.cons_ne_nil c body), filterMap_texts h]
    rfl

end

lemma ofComponents_of_ne {cs : List Component} (h : cs ≠ [.root]) :
    ofComponents cs = String.ofList (['/'].intercalate (cs.map Component.text)) := by
  unfold ofComponents
  split
  · exact absurd rfl h
  · rfl

lemma componentsOf_cases (cs : List Char) :
    ∃ body : List Component, (∀ c ∈ body, component? c.text = some c ∧ '/' ∉ c.text) ∧
      (componentsOf cs = .root :: body ∨ componentsOf cs = .here :: body ∨
        componentsOf cs = body) := by
  refine ⟨(segments cs).filterMap component?, fun c => of_mem_filterMap_segments, ?_⟩
  unfold componentsOf
  dsimp only
  split_ifs
  · exact .inl rfl
  · exact .inr (.inl rfl)
  · exact .inr (.inr rfl)

/-- The text of the components of a path is a path with the same components. -/
theorem components_ofComponents (path : String) :
    components (ofComponents (components path)) = components path := by
  obtain ⟨body, hbody, hcases⟩ := componentsOf_cases path.toList
  unfold components
  rcases hcases with h | h | h <;> rw [h]
  · by_cases hnil : body = []
    · rw [hnil]
      decide
    · rw [ofComponents_of_ne (by simpa using hnil), String.toList_ofList]
      exact componentsOf_root_texts hbody hnil
  · rw [ofComponents_of_ne (by simp), String.toList_ofList]
    exact componentsOf_here_texts hbody
  · have hroot : body ≠ [.root] := by
      rintro rfl
      cases (hbody .root List.mem_cons_self).1
    rw [ofComponents_of_ne hroot, String.toList_ofList]
    exact componentsOf_texts hbody

/-- Above a name below a directory there is the directory. -/
theorem parent?_join (directory : String) {name : String} (h : IsFileName name.toList) :
    ∃ parent, parent? (Path.join directory name) = some parent ∧
      components parent = components directory := by
  refine ⟨ofComponents (components directory), ?_, components_ofComponents directory⟩
  unfold parent?
  dsimp only
  rw [components_join directory h, List.getLast?_concat, List.dropLast_concat]

/-! ### The last component -/

lemma component?_eq_none_iff {s : List Char} : component? s = none ↔ s = [] ∨ s = ['.'] := by
  unfold component?
  split_ifs <;> simp_all

/-- The name stands between slashes, and behind it there are only empty texts and single points. -/
def LastComponent (name path : List Char) : Prop :=
  '/' ∉ name ∧ ∃ above below, path = ['/'].intercalate (above ++ name :: below) ∧
    ∀ s ∈ below, s = [] ∨ s = ['.']

/-- The file name of a path is its last component, if that is a name. -/
theorem fileName?_eq_some_iff {path : String} {name : List Char} :
    fileName? path = some name ↔ IsFileName name ∧ LastComponent name path.toList := by
  have hlast : fileName? path = some name ↔
      ((segments path.toList).filterMap component?).getLast? = some (.name name) := by
    rw [← getLast?_componentsOf_iff]
    unfold fileName? components
    split <;> simp_all
  rw [hlast, List.getLast?_eq_some_iff]
  constructor
  · rintro ⟨kept, hkept⟩
    obtain ⟨first, later, hsegments, -, hlater⟩ := List.filterMap_eq_append_iff.mp hkept
    obtain ⟨passed, s, below, rfl, -, hs, hbelow⟩ := List.filterMap_eq_cons_iff.mp hlater
    obtain rfl : name = s := text_of_component? hs
    have hmem : name ∈ segments path.toList := by
      rw [hsegments]
      exact List.mem_append_right _ (List.mem_append_right _ List.mem_cons_self)
    have hslash : '/' ∉ name := slash_notMem_of_mem_segments hmem
    refine ⟨⟨hslash, hs⟩, hslash, first ++ passed, below, ?_, ?_⟩
    · rw [List.append_assoc, ← hsegments, intercalate_segments]
    · intro s hmem
      exact component?_eq_none_iff.mp (List.filterMap_eq_nil_iff.mp hbelow s hmem)
  · rintro ⟨hname, -, above, below, hpath, hbelow⟩
    have hslash : ∀ s ∈ name :: below, '/' ∉ s := by
      intro s hs
      rcases List.mem_cons.mp hs with rfl | hs
      · exact hname.1
      · rcases hbelow s hs with rfl | rfl <;> decide
    have hpassed : below.filterMap component? = [] :=
      List.filterMap_eq_nil_iff.mpr fun s hs => component?_eq_none_iff.mpr (hbelow s hs)
    obtain ⟨ss, hss⟩ := segments_intercalate_append above (List.cons_ne_nil name below) hslash
    rw [hpath, hss, List.filterMap_append, List.filterMap_cons_some hname.2, hpassed]
    exact ⟨_, rfl⟩

/-! ### Stems and extensions -/

/-- A file name is split at its last point, unless nothing stands before it. -/
lemma splitName?_eq_some_iff {name stem extension : List Char} :
    splitName? name = some (stem, extension) ↔
      name = stem ++ '.' :: extension ∧ stem ≠ [] ∧ '.' ∉ extension := by
  rw [and_comm (a := stem ≠ []), ← and_assoc, ← Text.splitLast?_eq_some_iff]
  unfold splitName?
  split
  · next before behind h =>
    rw [h, Option.some.injEq, Prod.mk.injEq]
    split_ifs with hempty
    · rw [List.isEmpty_iff] at hempty
      refine iff_of_false not_false ?_
      rintro ⟨⟨rfl, -⟩, hne⟩
      exact hne hempty
    · rw [List.isEmpty_iff] at hempty
      rw [Option.some.injEq, Prod.mk.injEq, iff_self_and]
      rintro ⟨rfl, -⟩
      exact hempty
  · next h =>
    rw [h]
    exact iff_of_false (Option.some_ne_none _).symm fun h => Option.some_ne_none _ h.1.symm

lemma extension?_eq_some_iff {path e : String} : extension? path = some e ↔
    ∃ stem, stem ≠ [] ∧ '.' ∉ e.toList ∧ fileName? path = some (stem ++ '.' :: e.toList) := by
  simp only [extension?, Option.map_eq_some_iff, Option.bind_eq_some_iff, Prod.exists,
    splitName?_eq_some_iff]
  constructor
  · rintro ⟨stem, extension, ⟨name, hname, rfl, hne, hpoint⟩, rfl⟩
    rw [String.toList_ofList]
    exact ⟨stem, hne, hpoint, hname⟩
  · rintro ⟨stem, hne, hpoint, hname⟩
    exact ⟨stem, e.toList, ⟨_, hname, rfl, hne, hpoint⟩, String.ofList_toList⟩

lemma stem_of_fileName? {path : String} {stem extension : List Char}
    (h : fileName? path = some (stem ++ '.' :: extension)) (hne : stem ≠ [])
    (hpoint : '.' ∉ extension) : Path.stem path = String.ofList stem := by
  rw [Path.stem, h]
  dsimp only
  rw [splitName?_eq_some_iff.mpr ⟨rfl, hne, hpoint⟩]

end ServiceLinker.Proofs
