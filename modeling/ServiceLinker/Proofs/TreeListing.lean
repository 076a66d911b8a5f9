import ServiceLinker.Proofs.TreeAccounting
import ServiceLinker.Proofs.TreeLookup

/-!
# Listing trees

A listing holds the files below a place once each, in ascending order of their names. It is
therefore known from the places of the files alone, and so is the part of it that has a role.
-/

namespace ServiceLinker.Proofs

open ServiceLinker.Tree (files filesOf sortEntries listedPath startOf walkFiles)

/-! ### The files of a directory -/

/-- The files that an entry is or holds. -/
def filesAt (name : String) : Tree → List (List String)
  | .file _ => [[name]]
  | .link _ => []
  | .dir inner => (files (.dir inner)).map (name :: ·)

lemma filesOf_eq_map (entries : List (String × Tree)) :
    filesOf entries = entries.map fun e => (e.1, filesAt e.1 e.2) := by
  induction entries with
  | nil => rw [filesOf, List.map_nil]
  | cons e entries ih =>
    obtain ⟨name, content | target | inner⟩ := e <;> rw [filesOf, ih, List.map_cons] <;> rfl

lemma mem_files_dir {entries : List (String × Tree)} {names : List String} :
    names ∈ files (.dir entries) ↔ ∃ e ∈ entries, names ∈ filesAt e.1 e.2 := by
  rw [files, List.mem_flatten, filesOf_eq_map]
  constructor
  · rintro ⟨group, hgroup, hnames⟩
    obtain ⟨g, hg, rfl⟩ := List.mem_map.mp hgroup
    obtain ⟨e, he, rfl⟩ := List.mem_map.mp (List.mem_mergeSort.mp hg)
    exact ⟨e, he, hnames⟩
  · rintro ⟨e, he, hnames⟩
    refine ⟨filesAt e.1 e.2, List.mem_map.mpr ⟨(e.1, filesAt e.1 e.2), ?_, rfl⟩, hnames⟩
    exact List.mem_mergeSort.mpr (List.mem_map.mpr ⟨e, he, rfl⟩)

lemma exists_cons_of_mem_filesAt {name : String} {u : Tree} {names : List String}
    (h : names ∈ filesAt name u) : ∃ below, names = name :: below := by
  cases u with
  | file content => exact ⟨[], List.mem_singleton.mp h⟩
  | link target => cases h
  | dir inner =>
    obtain ⟨below, -, rfl⟩ := List.mem_map.mp h
    exact ⟨below, rfl⟩

lemma lookup_of_mem {entries : List (String × Tree)} (hnodup : (entries.map Prod.fst).Nodup)
    {name : String} {u : Tree} (h : (name, u) ∈ entries) : entries.lookup name = some u := by
  induction entries with
  | nil => cases h
  | cons e entries ih =>
    rw [List.map_cons, List.nodup_cons] at hnodup
    rcases List.mem_cons.mp h with rfl | h
    · rw [List.lookup_cons, beq_self_eq_true]
    · have hne : name ≠ e.1 := fun heq => hnodup.1 (heq ▸ List.mem_map_of_mem h)
      rw [List.lookup_cons, beq_false_of_ne hne]
      exact ih hnodup.2 h

lemma cons_mem_filesAt_iff {name : String} {u : Tree} {below : List String}
    (h : below ∈ files u ↔ below ≠ [] ∧ ∃ content, nodeAt u below = some (.file content)) :
    name :: below ∈ filesAt name u ↔ ∃ content, nodeAt u below = some (.file content) := by
  cases u with
  | file content =>
    cases below with
    | nil => exact ⟨fun _ => ⟨content, rfl⟩, fun _ => List.mem_singleton_self _⟩
    | cons other below =>
      constructor
      · intro hmem
        cases List.mem_singleton.mp hmem
      · rintro ⟨content', hfile⟩
        cases hfile
  | link target =>
    constructor
    · intro hmem
      cases hmem
    · rintro ⟨content, hfile⟩
      cases below <;> cases hfile
  | dir inner =>
    rw [filesAt, List.mem_map_of_injective List.cons_injective, h]
    constructor
    · exact And.right
    · rintro ⟨content, hfile⟩
      refine ⟨?_, content, hfile⟩
      rintro rfl
      cases hfile

/-- A listing holds the places at which there are files. -/
theorem mem_files_iff {t : Tree} (ht : wellNamed t = true) {names : List String} :
    names ∈ files t ↔ names ≠ [] ∧ ∃ content, nodeAt t names = some (.file content) := by
  induction names generalizing t with
  | nil =>
    refine ⟨fun h => ?_, fun h => absurd rfl h.1⟩
    cases t with
    | file content => cases h
    | link target => cases h
    | dir entries =>
      obtain ⟨e, -, hnames⟩ := mem_files_dir.mp h
      obtain ⟨below, hcons⟩ := exists_cons_of_mem_filesAt hnames
      cases hcons
  | cons name below ih =>
    cases t with
    | file content =>
      constructor
      · intro h
        cases h
      · rintro ⟨-, content, h⟩
        cases h
    | link target =>
      constructor
      · intro h
        cases h
      · rintro ⟨-, content, h⟩
        cases h
    | dir entries =>
      obtain ⟨hnodup, hentries⟩ := wellNamed_dir_iff.mp ht
      rw [mem_files_dir, nodeAt_dir_cons]
      constructor
      · rintro ⟨⟨n, u⟩, he, hnames⟩
        obtain ⟨below', hcons⟩ := exists_cons_of_mem_filesAt hnames
        cases hcons
        rw [lookup_of_mem hnodup he, Option.bind_some]
        exact ⟨List.cons_ne_nil _ _, (cons_mem_filesAt_iff (ih (hentries _ he).2)).mp hnames⟩
      · rintro ⟨-, content, hfile⟩
        obtain ⟨u, hu, hfile⟩ := Option.bind_eq_some_iff.mp hfile
        have he := mem_of_lookup hu
        exact ⟨(name, u), he, (cons_mem_filesAt_iff (ih (hentries _ he).2)).mpr ⟨content, hfile⟩⟩

/-! ### The order of a listing -/

lemma pairwise_sortEntries {α : Type} {entries : List (String × α)}
    (h : (entries.map Prod.fst).Nodup) :
    (sortEntries entries).Pairwise fun a b => a.1 < b.1 := by
  have hsorted : (sortEntries entries).Pairwise fun a b => a.1 ≤ b.1 := by
    refine (List.pairwise_mergeSort ?_ ?_ entries).imp ?_
    · intro a b c hab hbc
      rw [decide_eq_true_eq] at hab hbc ⊢
      exact hab.trans hbc
    · intro a b
      rw [Bool.or_eq_true, decide_eq_true_eq, decide_eq_true_eq]
      exact le_total a.1 b.1
    · exact fun hab => of_decide_eq_true hab
  have hnodup : ((sortEntries entries).map Prod.fst).Nodup :=
    ((List.mergeSort_perm entries _).map Prod.fst).nodup_iff.mpr h
  exact hsorted.imp₂ (fun _ _ hle hne => lt_of_le_of_ne hle hne) (List.pairwise_map.mp hnodup)

lemma pairwise_files_dir {entries : List (String × Tree)} (hnodup : (entries.map Prod.fst).Nodup)
    (h : ∀ e ∈ entries, (filesAt e.1 e.2).Pairwise (· < ·)) :
    (files (.dir entries)).Pairwise (· < ·) := by
  have hgroups : ∀ g ∈ sortEntries (filesOf entries),
      ∃ e ∈ entries, g = (e.1, filesAt e.1 e.2) := by
    intro g hg
    have hmem := List.mem_mergeSort.mp hg
    rw [filesOf_eq_map] at hmem
    obtain ⟨e, he, rfl⟩ := List.mem_map.mp hmem
    exact ⟨e, he, rfl⟩
  have hnames : ((filesOf entries).map Prod.fst).Nodup := by
    rw [filesOf_eq_map, List.map_map]
    exact hnodup
  rw [files, List.pairwise_flatten, List.pairwise_map]
  refine ⟨?_, (pairwise_sortEntries hnames).imp_of_mem ?_⟩
  · intro group hgroup
    obtain ⟨g, hg, rfl⟩ := List.mem_map.mp hgroup
    obtain ⟨e, he, rfl⟩ := hgroups g hg
    exact h e he
  · -- the files of two entries compare by the names of the entries
    intro g g' hg hg' hlt names hnames names' hnames'
    obtain ⟨e, -, rfl⟩ := hgroups g hg
    obtain ⟨e', -, rfl⟩ := hgroups g' hg'
    obtain ⟨below, rfl⟩ := exists_cons_of_mem_filesAt hnames
    obtain ⟨below', rfl⟩ := exists_cons_of_mem_filesAt hnames'
    exact List.cons_lt_cons_iff.mpr (.inl hlt)

mutual

/-- A listing is in ascending order. -/
theorem pairwise_files : ∀ t : Tree, wellNamed t = true → (files t).Pairwise (· < ·)
  | .file _, _ => List.Pairwise.nil
  | .link _, _ => List.Pairwise.nil
  | .dir entries, h => by
    rw [wellNamed, Bool.and_eq_true, decide_eq_true_eq] at h
    exact pairwise_files_dir h.1 (pairwise_filesAt entries h.2)

theorem pairwise_filesAt : ∀ entries : List (String × Tree), entriesWellNamed entries = true →
    ∀ e ∈ entries, (filesAt e.1 e.2).Pairwise (· < ·)
  | [], _ => fun _ he => absurd he List.not_mem_nil
  | (name, u) :: entries, h => by
    rw [entriesWellNamed, Bool.and_eq_true, Bool.and_eq_true] at h
    intro e he
    rcases List.mem_cons.mp he with rfl | he
    · cases u with
      | file content => exact List.pairwise_singleton _ _
      | link target => exact List.Pairwise.nil
      | dir inner =>
        refine List.pairwise_map.mpr ((pairwise_files (.dir inner) h.1.2).imp ?_)
        exact fun hlt => List.cons_lt_cons_iff.mpr (.inr ⟨rfl, hlt⟩)
    · exact pairwise_filesAt entries h.2 e he

end

/-! ### Listed paths -/

/-- None of the names holds a slash. -/
def SlashFree (names : List String) : Prop := ∀ name ∈ names, '/' ∉ name.toList

lemma isEntryName_of_mem {t : Tree} (ht : wellNamed t = true) {place names : List String}
    (h : nodeAt t (place ++ names) ≠ none) {name : String} (hname : name ∈ names) :
    isEntryName name = true := by
  obtain ⟨front, rest, rfl⟩ := List.append_of_mem hname
  rw [← List.append_assoc] at h
  exact isEntryName_of_nodeAt ht h

lemma slashFree_of_nodeAt {t : Tree} (ht : wellNamed t = true) {place names : List String}
    (h : nodeAt t (place ++ names) ≠ none) : SlashFree names :=
  fun _ hname => (isEntryName_iff.mp (isEntryName_of_mem ht h hname)).2

lemma segments_intercalate_names {names : List String} (hne : names ≠ []) (h : SlashFree names) :
    Path.segments ("/".intercalate names).toList = names.map String.toList := by
  rw [String.toList_intercalate]
  apply segments_intercalate
  · exact fun hnil => hne (List.map_eq_nil_iff.mp hnil)
  · intro s hs
    obtain ⟨name, hname, rfl⟩ := List.mem_map.mp hs
    exact h name hname

/-- The segments of a listed path are those of the root, without the slash at its end, and the
names. -/
lemma exists_segments_listedPath (root : String) {names : List String} (hne : names ≠ [])
    (h : SlashFree names) :
    ∃ base, (Path.segments root.toList = base ∨ Path.segments root.toList = base ++ [[]]) ∧
      Path.segments (listedPath root names).toList = base ++ names.map String.toList := by
  unfold listedPath
  split_ifs with hlast
  · obtain ⟨above, habove⟩ := List.getLast?_eq_some_iff.mp hlast
    refine ⟨Path.segments above, .inr ?_, ?_⟩
    · rw [habove, segments_append_slash]
      rfl
    · rw [String.toList_append, habove, List.append_assoc, ← segments_intercalate_names hne h,
        ← segments_append_slash]
      rfl
  · refine ⟨Path.segments root.toList, .inl rfl, ?_⟩
    rw [String.toList_append, String.toList_append, List.append_assoc,
      ← segments_intercalate_names hne h, ← segments_append_slash]
    rfl

lemma ne_empty_of_spotOf {t : Tree} {path : String} {here : List String} {spot : Spot}
    (h : spotOf t path here = .ok spot) : path ≠ "" := by
  rintro rfl
  cases h

lemma startOf_listedPath (here : List String) {root : String} (hroot : root ≠ "")
    (names : List String) :
    startOf here (listedPath root names).toList = startOf here root.toList := by
  have hne : root.toList ≠ [] := fun hnil => hroot (String.toList_eq_nil_iff.mp hnil)
  have hhead : (listedPath root names).toList.head? = root.toList.head? := by
    unfold listedPath
    split_ifs
    · rw [String.toList_append, List.head?_append_of_ne_nil _ hne]
    · rw [String.toList_append, String.toList_append, List.append_assoc,
        List.head?_append_of_ne_nil _ hne]
  rw [startOf, startOf, hhead]

/-- A listed path that is not refused goes on from the place of the root. -/
lemma spotOf_listedPath {t : Tree} {root : String} {here p : List String}
    (hroot : spotOf t root here = .ok (.found p)) {names : List String} (hne : names ≠ [])
    (h : SlashFree names) :
    spotOf t (listedPath root names) here =
      match refusal? (listedPath root names) with
      | some e => .error e
      | none => descend t p names := by
  obtain ⟨base, hsegments, hpath⟩ := exists_segments_listedPath root hne h
  have hbase : descend t (startOf here root.toList) (base.map String.ofList) =
      .ok (.found p) := by
    unfold spotOf Tree.segments at hroot
    split at hroot
    · cases hroot
    · rcases hsegments with hsegments | hsegments
      · rwa [hsegments] at hroot
      · rw [hsegments, List.map_append] at hroot
        exact descend_append_slash hroot
  have hnames : (names.map String.toList).map String.ofList = names := by
    rw [List.map_map]
    exact List.map_id'' (fun name => String.ofList_toList) names
  unfold spotOf
  cases refusal? (listedPath root names) with
  | some e => rfl
  | none =>
    dsimp only
    rw [startOf_listedPath here (ne_empty_of_spotOf hroot), Tree.segments, hpath,
      List.map_append, hnames, descend_append hbase]

/-- Two trees in which a root leads to the same place, and the place to equal files, are read
alike at the listed paths of these files. -/
lemma readText_listedPath {t t' : Tree} (ht : Plain t) (ht' : Plain t') {root : String}
    {here p names : List String} (hroot : spotOf t root here = .ok (.found p))
    (hroot' : spotOf t' root here = .ok (.found p)) (hne : names ≠ []) {content : Content}
    (hfile : nodeAt t (p ++ names) = some (.file content))
    (hfile' : nodeAt t' (p ++ names) = some (.file content)) :
    Tree.readText t' (listedPath root names) here =
      Tree.readText t (listedPath root names) here := by
  have hthere := nodeAt_ne_none hfile
  have hslash := slashFree_of_nodeAt ht.named hthere
  have hspot := spotOf_listedPath hroot hne hslash
  have hspot' := spotOf_listedPath hroot' hne hslash
  cases hrefusal : refusal? (listedPath root names) with
  | some e =>
    rw [hrefusal] at hspot hspot'
    rw [readText_of_error ht.unlinked hspot, readText_of_error ht'.unlinked hspot']
  | none =>
    rw [hrefusal] at hspot hspot'
    dsimp only at hspot hspot'
    rw [descend_names ht.named hthere] at hspot
    rw [descend_names ht'.named (nodeAt_ne_none hfile')] at hspot'
    rw [readText_of_file ht.unlinked hspot hfile, readText_of_file ht'.unlinked hspot' hfile']

/-! ### Roles of listed files -/

lemma isFileName_of_isEntryName {name : String} (h : isEntryName name = true) :
    IsFileName name.toList := by
  obtain ⟨⟨hstays, hup, -⟩, hslash⟩ := isEntryName_iff.mp h
  obtain ⟨hempty, hhere⟩ := Bool.or_eq_false_iff.mp hstays
  refine ⟨hslash, ?_⟩
  unfold Path.component?
  rw [if_neg, if_neg, if_neg]
  · intro htext
    exact hup (String.toList_inj.mp htext)
  · intro htext
    exact of_decide_eq_false hhere (String.toList_inj.mp htext)
  · intro htext
    rw [String.toList_eq_nil_iff.mp htext] at hempty
    cases hempty

/-- A listed file has the extension of its name. -/
lemma extension?_listedPath (root : String) {above : List String} {name : String}
    (hname : IsFileName name.toList) (h : SlashFree (above ++ [name])) :
    Path.extension? (listedPath root (above ++ [name])) = Path.extension? name := by
  obtain ⟨base, -, hsegments⟩ := exists_segments_listedPath root (by simp) h
  have hlast : (Path.components (listedPath root (above ++ [name]))).getLast? =
      some (.name name.toList) := by
    refine getLast?_componentsOf hname (base ++ above.map String.toList) ?_
    rw [hsegments, List.map_append, List.append_assoc]
    rfl
  rw [Path.extension?, Path.extension?, fileName?_of_isFileName hname, Path.fileName?, hlast]

/-- The part of a listing that has a role depends on the places of the files with a role only. -/
lemma relevantPaths_listing {part part' : Tree} (h : wellNamed part = true)
    (h' : wellNamed part' = true) (c : Config) (root : String)
    (hsame : ∀ names, (c.role? (listedPath root names)).isSome = true → names ≠ [] →
      ((∃ content, nodeAt part names = some (.file content)) ↔
        ∃ content, nodeAt part' names = some (.file content))) :
    relevantPaths c ((files part').map (listedPath root)) =
      relevantPaths c ((files part).map (listedPath root)) := by
  unfold relevantPaths
  simp only [← isSome_role?, List.filter_map]
  congr 2
  -- both are in ascending order, so that their members decide
  refine List.Pairwise.eq_of_mem_iff ((pairwise_files part' h').filter _)
    ((pairwise_files part h).filter _) ?_
  intro names
  rw [List.mem_filter, List.mem_filter, mem_files_iff h, mem_files_iff h']
  constructor
  · rintro ⟨⟨hne, hfile⟩, hrole⟩
    exact ⟨⟨hne, (hsame names hrole hne).mpr hfile⟩, hrole⟩
  · rintro ⟨⟨hne, hfile⟩, hrole⟩
    exact ⟨⟨hne, (hsame names hrole hne).mp hfile⟩, hrole⟩

/-! ### Walks -/

section

variable {t : Tree} {root : String} {here : List String}

lemma walkFiles_of_find {entries : List (String × Tree)}
    (h : Tree.find t root here = .ok (.dir entries)) :
    walkFiles t root here = .ok ((files (.dir entries)).map (listedPath root)) := by
  unfold Tree.walkFiles
  rw [h]
  rfl

lemma walkFiles_of_dir (ht : linkFree t = true) {place : List String} {part : Tree}
    (hroot : spotOf t root here = .ok (.found place)) (hpart : t.at? place = some part)
    (hdir : nodeAt t place = some .dir) :
    walkFiles t root here = .ok ((files part).map (listedPath root)) := by
  obtain ⟨entries, hentries⟩ := nodeAt_eq_dir_iff.mp hdir
  obtain ⟨part', hpart', hfind⟩ := find_of_found ht hroot
  rw [hpart', Option.some.injEq] at hpart hentries
  rw [← hpart, hentries]
  rw [hentries] at hfind
  exact walkFiles_of_find hfind

lemma exists_dir_of_walkFiles (ht : linkFree t = true) {paths : List String}
    (h : walkFiles t root here = .ok paths) :
    ∃ place part, spotOf t root here = .ok (.found place) ∧ t.at? place = some part ∧
      nodeAt t place = some .dir ∧ paths = (files part).map (listedPath root) := by
  have hwalk := h
  unfold Tree.walkFiles at hwalk
  cases hfind : Tree.find t root here with
  | error e =>
    rw [hfind] at hwalk
    cases hwalk
  | ok part =>
    obtain ⟨place, hroot, hpart⟩ := found_of_find ht hfind
    rw [hfind] at hwalk
    cases part with
    | file content => cases hwalk
    | link target => cases hwalk
    | dir entries =>
      have hdir := nodeAt_of_at? hpart
      rw [walkFiles_of_dir ht hroot hpart hdir] at h
      exact ⟨place, .dir entries, hroot, hpart, hdir, (Except.ok.inj h).symm⟩

end

end ServiceLinker.Proofs
