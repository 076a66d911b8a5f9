import ServiceLinker.Proofs.TreeLookup

/-!
# Writing to trees

A write makes the directories that its path lacks and sets one file. A tree only grows by it, so
that what paths lead to stays where it was, and the same write once more changes nothing.
-/

namespace ServiceLinker.Proofs

open ServiceLinker.Tree (makeDir ensureDir makeDirs makeParents dropSlashes setContent writeContent
  isDir)

/-! ### Growth -/

/-- Directories stay, nothing vanishes, and files come, go or change at the places in `made`
only. -/
structure Grows (made : List String → Prop) (t t' : Tree) : Prop where
  dirs : ∀ place, nodeAt t place = some .dir → nodeAt t' place = some .dir
  kept : ∀ place, nodeAt t place ≠ none → nodeAt t' place ≠ none
  files : ∀ place content, ¬made place →
    (nodeAt t' place = some (.file content) ↔ nodeAt t place = some (.file content))

section

variable {made : List String → Prop} {t t' t'' : Tree} {here : List String}

lemma Grows.refl (made : List String → Prop) (t : Tree) : Grows made t t :=
  ⟨fun _ h => h, fun _ h => h, fun _ _ _ => Iff.rfl⟩

lemma Grows.trans (h : Grows made t t') (h' : Grows made t' t'') : Grows made t t'' :=
  ⟨fun place hdir => h'.dirs place (h.dirs place hdir),
    fun place hnode => h'.kept place (h.kept place hnode),
    fun place content hmade => (h'.files place content hmade).trans (h.files place content hmade)⟩

lemma Grows.mono {made' : List String → Prop} (h : Grows made t t')
    (hmade : ∀ place, made place → made' place) : Grows made' t t' :=
  ⟨h.dirs, h.kept, fun place content hnot =>
    h.files place content fun hplace => hnot (hmade place hplace)⟩

/-- A place in a directory that is no directory itself can take a part. -/
lemma canTake_of_not_dir {above : List String} {name : String}
    (hdir : nodeAt t above = some .dir) (h : nodeAt t (above ++ [name]) ≠ some .dir) :
    CanTake t above name := by
  refine ⟨hdir, ?_⟩
  intro other below
  by_contra hnode
  rw [List.append_cons] at hnode
  exact h (nodeAt_eq_dir_of_below hnode)

lemma grows_put {above : List String} {name : String} {part : Tree} (h : CanTake t above name)
    (hpart : ∀ other below, nodeAt part (other :: below) = none)
    (hnot : nodeAt t (above ++ [name]) ≠ some .dir)
    (hfile : ¬made (above ++ [name]) → ∀ content,
      nodeOf part = .file content ↔ nodeAt t (above ++ [name]) = some (.file content)) :
    Grows made t (t.put (above ++ [name]) part) := by
  have hput := nodeAt_put h hpart
  refine ⟨?_, ?_, ?_⟩
  · intro place hdir
    rw [hput]
    split_ifs with heq
    · exact absurd (heq ▸ hdir) hnot
    · exact hdir
  · intro place hnode
    rw [hput]
    split_ifs
    · exact Option.some_ne_none _
    · exact hnode
  · intro place content hmade
    rw [hput]
    split_ifs with heq
    · subst heq
      rw [Option.some.injEq]
      exact hfile hmade content
    · exact Iff.rfl

lemma grows_put_dir (made : List String → Prop) {above : List String} {name : String}
    (hdir : nodeAt t above = some .dir) (hnone : nodeAt t (above ++ [name]) = none) :
    Grows made t (t.put (above ++ [name]) .empty) := by
  have hnot := nodeAt_ne_dir hnone
  refine grows_put (canTake_of_not_dir hdir hnot) (fun _ _ => rfl) hnot ?_
  intro _ content
  rw [hnone]
  constructor <;> intro h <;> cases h

lemma grows_put_file {above : List String} {name : String} (h : CanTake t above name)
    (hnot : nodeAt t (above ++ [name]) ≠ some .dir) (hmade : made (above ++ [name]))
    (content : Content) : Grows made t (t.put (above ++ [name]) (.file content)) :=
  grows_put h (fun _ _ => rfl) hnot fun hno => absurd hmade hno

/-! ### Paths in a tree that has grown -/

lemma advance_grow (hg : Grows made t t') {place rest next : List String} {s : String}
    (h : advance t place s rest = .ok (.found next)) :
    advance t' place s rest = .ok (.found next) := by
  obtain ⟨hdir, ⟨hs, rfl⟩ | ⟨rfl, rfl⟩ | ⟨hs, hentry, rfl⟩⟩ := advance_found h
  · exact advance_stay (hg.dirs _ hdir) hs rest
  · exact advance_up (hg.dirs _ hdir) rest
  · exact advance_enter (hg.dirs _ hdir) hs (hg.kept _ hentry) rest

lemma descend_grow (hg : Grows made t t') {place path q : List String}
    (h : descend t place path = .ok (.found q)) : descend t' place path = .ok (.found q) := by
  induction path generalizing place with
  | nil =>
    obtain ⟨rfl, hnode⟩ := descend_nil_found h
    exact descend_nil (hg.kept _ hnode)
  | cons s rest ih =>
    obtain ⟨next, hnext, hrest⟩ := descend_cons_found h
    rw [descend_cons (advance_grow hg hnext)]
    exact ih hrest

/-- A path leads where it led before. -/
lemma spotOf_grow (hg : Grows made t t') {path : String} {place : List String}
    (h : spotOf t path here = .ok (.found place)) : spotOf t' path here = .ok (.found place) := by
  unfold spotOf at h ⊢
  split at h
  · cases h
  · exact descend_grow hg h

lemma isDir_grow (ht : Plain t) (ht' : Plain t') (hg : Grows made t t') {path : String}
    (h : isDir t path here = true) : isDir t' path here = true := by
  obtain ⟨place, hspot, hdir⟩ := (isDir_iff ht.unlinked).mp h
  exact (isDir_iff ht'.unlinked).mpr ⟨place, spotOf_grow hg hspot, hg.dirs place hdir⟩

lemma descend_empty {place : List String} (hdir : nodeAt t place = some .dir) {rest : List String}
    (h : rest.all (·.isEmpty) = true) : descend t place rest = .ok (.found place) := by
  induction rest with
  | nil => exact descend_nil (nodeAt_ne_none hdir)
  | cons s rest ih =>
    rw [List.all_cons, Bool.and_eq_true] at h
    have hstays : Tree.staysHere s = true := by
      unfold Tree.staysHere
      rw [h.1, Bool.true_or]
    rw [descend_cons (advance_stay hdir hstays rest)]
    exact ih h.2

/-- Where segments missed a name they lead to it once it is there. -/
lemma descend_of_missing (hg : Grows made t t') {place path above : List String} {name : String}
    {asDirectory : Bool} (h : descend t place path = .ok (.missing above name asDirectory))
    {node : TreeNode} (hnew : nodeAt t' (above ++ [name]) = some node)
    (hdir : asDirectory = true → node = .dir) :
    descend t' place path = .ok (.found (above ++ [name])) := by
  induction path generalizing place with
  | nil =>
    unfold descend at h
    split_ifs at h
    cases h
  | cons s rest ih =>
    rcases descend_cons_missing h with ⟨next, hnext, hrest⟩ | hstop
    · rw [descend_cons (advance_grow hg hnext)]
      exact ih hrest
    · obtain ⟨habove, hname, -, hempty, rfl, rfl, rfl⟩ := advance_missing hstop
      have hthere := nodeAt_ne_none hnew
      rw [descend_cons (advance_enter (hg.dirs _ habove) hname hthere rest)]
      cases rest with
      | nil => exact descend_nil hthere
      | cons slash rest =>
        rw [hdir rfl] at hnew
        exact descend_empty hnew hempty

lemma spotOf_of_missing (hg : Grows made t t') {path : String} {above : List String}
    {name : String} {asDirectory : Bool}
    (h : spotOf t path here = .ok (.missing above name asDirectory)) {node : TreeNode}
    (hnew : nodeAt t' (above ++ [name]) = some node) (hdir : asDirectory = true → node = .dir) :
    spotOf t' path here = .ok (.found (above ++ [name])) := by
  unfold spotOf at h ⊢
  split at h
  · cases h
  · exact descend_of_missing hg h hnew hdir

/-- A path that misses a name could reach it. -/
lemma missing_of_spotOf {path : String} {above : List String} {name : String} {asDirectory : Bool}
    (h : spotOf t path here = .ok (.missing above name asDirectory)) :
    nodeAt t above = some .dir ∧ nodeAt t (above ++ [name]) = none ∧
      isEntryName name = true := by
  unfold spotOf at h
  split at h
  · cases h
  · obtain ⟨hdir, hname, hmem, hnone⟩ := descend_missing h
    obtain ⟨s, hs, rfl⟩ := List.mem_map.mp hmem
    refine ⟨hdir, hnone, isEntryName_iff.mpr ⟨hname, ?_⟩⟩
    rw [String.toList_ofList]
    exact slash_notMem_of_mem_segments hs

end

/-! ### Making directories -/

section

variable {t t' : Tree} {path : String} {here : List String}

lemma makeDir_ok (ht : Plain t) (h : makeDir t path here = .ok t') :
    ∃ above name asDirectory, spotOf t path here = .ok (.missing above name asDirectory) ∧
      t' = t.put (above ++ [name]) .empty := by
  unfold makeDir at h
  rw [resolve_eq ht.unlinked] at h
  cases hspot : spotOf t path here with
  | error e =>
    rw [hspot] at h
    cases h
  | ok spot =>
    rw [hspot] at h
    cases spot with
    | found place => cases h
    | missing above name asDirectory =>
      exact ⟨above, name, asDirectory, rfl, (Except.ok.inj h).symm⟩

lemma ensureDir_ok (ht : Plain t) (h : ensureDir t path here = .ok t')
    (made : List String → Prop) :
    Plain t' ∧ Grows made t t' ∧ isDir t' path here = true := by
  unfold ensureDir at h
  split at h
  · next u hmake =>
    cases h
    obtain ⟨above, name, asDirectory, hspot, rfl⟩ := makeDir_ok ht hmake
    obtain ⟨hdir, hnone, hname⟩ := missing_of_spotOf hspot
    have hgrows := grows_put_dir made hdir hnone
    have hempty : Plain .empty := plain_dir_iff.mpr ⟨List.nodup_nil, by simp⟩
    have hplain := plain_put ht hempty hname hdir
    have htake := canTake_of_not_dir hdir (nodeAt_ne_dir hnone)
    have hnew : nodeAt (t.put (above ++ [name]) .empty) (above ++ [name]) = some .dir := by
      rw [nodeAt_put htake fun _ _ => rfl, if_pos rfl]
      rfl
    refine ⟨hplain, hgrows, (isDir_iff hplain.unlinked).mpr ⟨above ++ [name], ?_, hnew⟩⟩
    exact spotOf_of_missing hgrows hspot hnew fun _ => rfl
  · split_ifs at h with hthere
    cases h
    exact ⟨ht, .refl made t, hthere⟩

lemma ensureDir_of_isDir (ht : Plain t) (h : isDir t path here = true) :
    ensureDir t path here = .ok t := by
  obtain ⟨place, hspot, -⟩ := (isDir_iff ht.unlinked).mp h
  have hmake : makeDir t path here = .error .exists := by
    unfold makeDir
    rw [resolve_eq ht.unlinked, hspot]
    rfl
  rw [ensureDir, hmake]
  dsimp only
  rw [if_pos h]

lemma makeDirs_ok {fuel : Nat} (ht : Plain t) (h : makeDirs fuel t path here = (.ok (), t'))
    (made : List String → Prop) :
    Plain t' ∧ Grows made t t' ∧ (path = "" ∨ isDir t' path here = true) := by
  induction fuel generalizing t t' path with
  | zero => cases h
  | succ fuel ih =>
    unfold makeDirs at h
    split_ifs at h with hempty
    · cases h
      exact ⟨ht, .refl made t, .inl (String.isEmpty_iff.mp hempty)⟩
    · split at h
      · next u hensure =>
        cases h
        obtain ⟨hplain, hgrows, hdir⟩ := ensureDir_ok ht hensure made
        exact ⟨hplain, hgrows, .inr hdir⟩
      · next parent hparent =>
        split at h
        · cases h
        · -- the directory above could be made, and this one is tried again
          next u habove =>
          obtain ⟨hplain, hgrows, -⟩ := ih ht habove
          split at h
          · next v hensure =>
            cases h
            obtain ⟨hplain', hgrows', hdir⟩ := ensureDir_ok hplain hensure made
            exact ⟨hplain', hgrows.trans hgrows', .inr hdir⟩
          · cases h
      · cases h

/-- The directory of the path is there, or the path has none that could be made. -/
def HasParent (t : Tree) (path : String) (here : List String) : Prop :=
  ∀ parent, Path.parent? path = some parent → parent = "" ∨ isDir t parent here = true

lemma HasParent.grow {made : List String → Prop} (ht : Plain t) (ht' : Plain t')
    (h : HasParent t path here) (hg : Grows made t t') : HasParent t' path here :=
  fun parent hparent => (h parent hparent).imp_right (isDir_grow ht ht' hg)

lemma makeParents_ok (ht : Plain t) (h : makeParents t path here = (.ok (), t'))
    (made : List String → Prop) : Plain t' ∧ Grows made t t' ∧ HasParent t' path here := by
  unfold makeParents at h
  split at h
  · next parent hparent =>
    obtain ⟨hplain, hgrows, hdir⟩ := makeDirs_ok ht h made
    refine ⟨hplain, hgrows, ?_⟩
    intro parent' hparent'
    rw [hparent, Option.some.injEq] at hparent'
    exact hparent' ▸ hdir
  · next hparent =>
    cases h
    refine ⟨ht, .refl made t, ?_⟩
    intro parent' hparent'
    rw [hparent] at hparent'
    cases hparent'

lemma makeParents_of_hasParent (ht : Plain t) (h : HasParent t path here) :
    makeParents t path here = (.ok (), t) := by
  unfold makeParents
  cases hparent : Path.parent? path with
  | none => rfl
  | some parent =>
    dsimp only
    unfold makeDirs
    rcases h parent hparent with rfl | hdir
    · rfl
    · split_ifs
      · rfl
      · rw [ensureDir_of_isDir ht hdir]

end

/-! ### Writing a file -/

/-- What a write leaves behind: the directory of its path, and the content at the place of it. -/
structure Stored (t : Tree) (path : String) (here place : List String) (content : Content) :
    Prop where
  parent : HasParent t path here
  found : spotOf t path here = .ok (.found place)
  file : nodeAt t place = some (.file content)

lemma Stored.grow {made : List String → Prop} {t t' : Tree} (ht : Plain t) (ht' : Plain t')
    {path : String} {here place : List String} {content : Content}
    (h : Stored t path here place content)
    (hg : Grows made t t') (hmade : ¬made place) : Stored t' path here place content :=
  ⟨h.parent.grow ht ht' hg, spotOf_grow hg h.found, (hg.files place content hmade).mpr h.file⟩

section

variable {t t' : Tree} {directory name : String} {here : List String} {content : Content}

lemma dropSlashes_join (directory : String) (h : IsFileName name.toList) :
    dropSlashes (Path.join directory name) = Path.join directory name := by
  have hne : name.toList ≠ [] := by
    intro hempty
    have hcomponent := h.2
    rw [hempty] at hcomponent
    cases hcomponent
  obtain ⟨front, c, hname⟩ := (List.eq_nil_or_concat' name.toList).resolve_left hne
  have hc : c ≠ '/' := by
    intro hslash
    apply h.1
    rw [hname, hslash]
    exact List.mem_append_right front List.mem_cons_self
  have hlast : ∃ front, (Path.join directory name).toList = front ++ [c] := by
    rcases toList_join directory h.1 with htext | ⟨above, htext⟩
    · exact ⟨front, by rw [htext, hname]⟩
    · exact ⟨above ++ '/' :: front, by rw [htext, hname, List.append_assoc, List.cons_append]⟩
  obtain ⟨front, hfront⟩ := hlast
  unfold dropSlashes
  rw [hfront, List.reverse_append, List.reverse_singleton, List.singleton_append,
    List.dropWhile_cons_of_neg (by simpa using hc), List.reverse_cons, List.reverse_reverse,
    ← hfront, String.ofList_toList]

lemma exists_segments_join (directory : String) (h : IsFileName name.toList) :
    ∃ front, Tree.segments (Path.join directory name).toList = front ++ [name] := by
  unfold Tree.segments
  rcases toList_join directory h.1 with htext | ⟨above, htext⟩
  · refine ⟨[], ?_⟩
    rw [htext, segments_of_notMem h.1, List.map_singleton, String.ofList_toList]
    rfl
  · refine ⟨(Path.segments above).map String.ofList, ?_⟩
    rw [htext, segments_append_slash, segments_of_notMem h.1, List.map_append, List.map_singleton,
      String.ofList_toList]

lemma stays_of_isFileName (h : IsFileName name.toList) :
    Tree.staysHere name = false ∧ name ≠ ".." := by
  have hcomponent := h.2
  refine ⟨?_, ?_⟩
  · unfold Tree.staysHere
    rw [Bool.or_eq_false_iff]
    refine ⟨?_, decide_eq_false ?_⟩
    · by_contra hempty
      rw [Bool.not_eq_false, String.isEmpty_iff] at hempty
      rw [hempty] at hcomponent
      cases hcomponent
    · intro hhere
      rw [hhere] at hcomponent
      exact absurd hcomponent (by decide)
  · intro hup
    rw [hup] at hcomponent
    exact absurd hcomponent (by decide)

lemma exists_descend_of_join (hname : IsFileName name.toList) {spot : Spot}
    (h : spotOf t (Path.join directory name) here = .ok spot) :
    ∃ front, descend t (Tree.startOf here (Path.join directory name).toList) (front ++ [name]) =
      .ok spot := by
  obtain ⟨front, hsegments⟩ := exists_segments_join directory hname
  unfold spotOf at h
  split at h
  · cases h
  · exact ⟨front, hsegments ▸ h⟩

lemma exists_above_of_join_found (hname : IsFileName name.toList) {place : List String}
    (h : spotOf t (Path.join directory name) here = .ok (.found place)) :
    ∃ above, place = above ++ [name] := by
  obtain ⟨hstays, hup⟩ := stays_of_isFileName hname
  obtain ⟨front, hdescend⟩ := exists_descend_of_join hname h
  exact descend_concat_found hstays hup hdescend

lemma eq_of_join_missing (hname : IsFileName name.toList) {above : List String} {name' : String}
    {asDirectory : Bool}
    (h : spotOf t (Path.join directory name) here = .ok (.missing above name' asDirectory)) :
    name' = name ∧ asDirectory = false := by
  obtain ⟨front, hdescend⟩ := exists_descend_of_join hname h
  exact descend_concat_missing (stays_of_isFileName hname).1 hdescend

/-- The file of a write stands, or will stand, under its name in a directory. -/
lemma setContent_ok (ht : Plain t) (hname : IsFileName name.toList)
    (h : setContent t (Path.join directory name) content here = .ok t') :
    ∃ above, nodeAt t above = some .dir ∧ nodeAt t (above ++ [name]) ≠ some .dir ∧
      isEntryName name = true ∧ t' = t.put (above ++ [name]) (.file content) ∧
      (spotOf t (Path.join directory name) here = .ok (.found (above ++ [name])) ∨
        spotOf t (Path.join directory name) here = .ok (.missing above name false)) := by
  unfold setContent at h
  rw [dropSlashes_join directory hname, bne_self_eq_false,
    if_neg Bool.false_ne_true, resolve_eq ht.unlinked] at h
  cases hspot : spotOf t (Path.join directory name) here with
  | error e =>
    rw [hspot] at h
    cases h
  | ok spot =>
    rw [hspot] at h
    cases spot with
    | missing above name' asDirectory =>
      obtain ⟨rfl, rfl⟩ := eq_of_join_missing hname hspot
      obtain ⟨hdir, hnone, hentry⟩ := missing_of_spotOf hspot
      exact ⟨above, hdir, nodeAt_ne_dir hnone, hentry, (Except.ok.inj h).symm, .inr rfl⟩
    | found place =>
      obtain ⟨above, rfl⟩ := exists_above_of_join_found hname hspot
      have hnode := nodeAt_of_spotOf hspot
      obtain ⟨part, hpart, -⟩ := find_of_found ht.unlinked hspot
      have hpartNode := nodeAt_of_at? hpart
      simp only [Except.map, Spot.target, hpart, Option.getD_some] at h
      cases part with
      | link target => cases h
      | dir entries => cases h
      | file old =>
        refine ⟨above, nodeAt_eq_dir_of_below hnode, ?_, isEntryName_of_nodeAt ht.named hnode,
          (Except.ok.inj h).symm, .inl rfl⟩
        rw [hpartNode]
        intro hdir
        cases hdir

/-- The place carries the name. -/
def EndsIn (name : String) (place : List String) : Prop := ∃ above, place = above ++ [name]

lemma endsIn_concat_iff {above : List String} {name' : String} :
    EndsIn name (above ++ [name']) ↔ name = name' := by
  constructor
  · rintro ⟨above', hplace⟩
    obtain ⟨-, hsame⟩ := List.append_inj' hplace rfl
    exact (List.singleton_inj.mp hsame).symm
  · rintro rfl
    exact ⟨above, rfl⟩

/-- A write sets one file and makes directories. -/
theorem writeContent_ok (ht : Plain t) (hname : IsFileName name.toList)
    (h : writeContent t (Path.join directory name) content here = (.ok (), t')) :
    Plain t' ∧ Grows (EndsIn name) t t' ∧
      ∃ above, Stored t' (Path.join directory name) here (above ++ [name]) content := by
  unfold writeContent at h
  split at h
  · cases h
  · next u hparents =>
    split at h
    · cases h
    · next v hset =>
      cases h
      obtain ⟨hu, hgrows, hparent⟩ := makeParents_ok ht hparents (EndsIn name)
      obtain ⟨above, hdir, hnot, hentry, rfl, hspot⟩ := setContent_ok hu hname hset
      have htake := canTake_of_not_dir hdir hnot
      have hends : EndsIn name (above ++ [name]) := endsIn_concat_iff.mpr rfl
      have hgrows' := grows_put_file htake hnot hends content
      have hplain : Plain (u.put (above ++ [name]) (.file content)) :=
        plain_put hu ⟨rfl, rfl⟩ hentry hdir
      have hnew : nodeAt (u.put (above ++ [name]) (.file content)) (above ++ [name]) =
          some (.file content) := by
        rw [nodeAt_put htake fun _ _ => rfl, if_pos rfl]
        rfl
      refine ⟨hplain, hgrows.trans hgrows', above, hparent.grow hu hplain hgrows', ?_, hnew⟩
      rcases hspot with hfound | hmissing
      · exact spotOf_grow hgrows' hfound
      · exact spotOf_of_missing hgrows' hmissing hnew fun hslash => by cases hslash

/-- A file that is written once more changes nothing. -/
theorem writeContent_of_stored (ht : Plain t) (hname : IsFileName name.toList)
    {place : List String} (h : Stored t (Path.join directory name) here place content) :
    writeContent t (Path.join directory name) content here = (.ok (), t) := by
  have hpart : t.at? place = some (.file content) := nodeAt_eq_file_iff.mp h.file
  have hset : setContent t (Path.join directory name) content here = .ok t := by
    unfold setContent
    rw [dropSlashes_join directory hname, bne_self_eq_false,
      if_neg Bool.false_ne_true, resolve_eq ht.unlinked, h.found]
    simp only [Except.map, Spot.target, hpart, Option.getD_some]
    change Except.ok (t.put place (.file content)) = _
    rw [put_of_at? hpart]
  rw [writeContent, makeParents_of_hasParent ht h.parent]
  dsimp only
  rw [hset]

end

end ServiceLinker.Proofs
