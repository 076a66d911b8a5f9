import ServiceLinker.Proofs.BundleNames
import ServiceLinker.Proofs.TreePlaces

/-!
# Looking paths up in trees without links

Where there are no links a path is followed by its segments alone, and what it leads to depends on
the places of the tree only. This file brings the lookup into that form and says what a path that
leads somewhere, or just misses, tells about the tree.
-/

namespace ServiceLinker.Proofs

open ServiceLinker.Tree (Target lookUp resolve segments staysHere startOf nameLimit pathLimit
  linkLimit)

/-! ### Following segments -/

/-- Where segments lead: to a place, or to a name that a directory does not have. -/
inductive Spot where
  | found (place : List String)
  | missing (above : List String) (name : String) (asDirectory : Bool)

/-- The end of a lookup at a spot of a tree. -/
def Spot.target (t : Tree) : Spot → Target
  | .found place => .found place ((t.at? place).getD .empty)
  | .missing above name asDirectory => .missing above name asDirectory

/-- Where the segment `s` leads from a place of a tree without links, if the segments `rest` are
still to come. -/
def advance (t : Tree) (place : List String) (s : String) (rest : List String) :
    Except TreeError Spot :=
  match nodeAt t place with
  | none => .error .notFound
  | some .dir =>
    if staysHere s then .ok (.found place)
    else if s = ".." then .ok (.found place.dropLast)
    else if nameLimit < s.utf8ByteSize then .error .nameTooLong
    else if (nodeAt t (place ++ [s])).isSome then .ok (.found (place ++ [s]))
    else if rest.all (·.isEmpty) then .ok (.missing place s !rest.isEmpty)
    else .error .notFound
  | some _ => .error .notADirectory

/-- Follows segments from a place of a tree without links. -/
def descend (t : Tree) : List String → List String → Except TreeError Spot
  | place, [] => if (nodeAt t place).isSome then .ok (.found place) else .error .notFound
  | place, s :: rest =>
    match advance t place s rest with
    | .ok (.found next) => descend t next rest
    | stop => stop

lemma nodeAt_of_at? {t part : Tree} {place : List String} (h : t.at? place = some part) :
    nodeAt t place = some (nodeOf part) := by
  rw [nodeAt, h, Option.map_some]

lemma at?_entry {t : Tree} {place : List String} {entries : List (String × Tree)}
    (h : t.at? place = some (.dir entries)) (name : String) :
    t.at? (place ++ [name]) = entries.lookup name := by
  rw [at?_append, h, Option.bind_some]
  change (entries.lookup name).bind (Tree.at? []) = _
  cases entries.lookup name <;> rfl

lemma nodeAt_entry {t : Tree} {place : List String} {entries : List (String × Tree)}
    (h : t.at? place = some (.dir entries)) (name : String) :
    nodeAt t (place ++ [name]) = (entries.lookup name).map nodeOf := by
  rw [nodeAt, at?_entry h]

/-- The fuel only has to exceed the number of segments: nothing but a link adds to them. -/
lemma lookUp_eq_descend {t : Tree} (ht : linkFree t = true) (follow : Bool) {fuel : Nat}
    (links : Nat) (place : List String) {path : List String} (hfuel : path.length < fuel) :
    lookUp t follow fuel links place path = (descend t place path).map (Spot.target t) := by
  induction fuel generalizing place path with
  | zero => exact absurd hfuel (Nat.not_lt_zero _)
  | succ fuel ih =>
    unfold lookUp
    cases hpart : t.at? place with
    | none => cases path <;> simp [descend, advance, nodeAt, hpart, Except.map]
    | some part =>
      have hnode := nodeAt_of_at? hpart
      cases path with
      | nil => simp [descend, hnode, Except.map, Spot.target, hpart]
      | cons s rest =>
        have hrest : rest.length < fuel := Nat.lt_of_succ_lt_succ hfuel
        unfold descend advance
        rw [hnode]
        cases part with
        | file content => rfl
        | link target => exact absurd hnode (nodeAt_ne_link ht place target)
        | dir entries =>
          have hbelow := nodeAt_entry hpart s
          dsimp only [nodeOf]
          by_cases hstays : staysHere s = true
          · rw [if_pos hstays, if_pos hstays]
            exact ih place hrest
          rw [if_neg hstays, if_neg hstays]
          by_cases hup : s = ".."
          · rw [if_pos hup, if_pos hup]
            exact ih place.dropLast hrest
          rw [if_neg hup, if_neg hup]
          by_cases hlong : nameLimit < s.utf8ByteSize
          · rw [if_pos hlong, if_pos hlong]
            rfl
          rw [if_neg hlong, if_neg hlong]
          cases hu : entries.lookup s with
          | none =>
            rw [hu, Option.map_none] at hbelow
            rw [hbelow, Option.isSome_none, if_neg Bool.false_ne_true]
            dsimp only
            split_ifs <;> rfl
          | some u =>
            rw [hu, Option.map_some] at hbelow
            rw [hbelow, Option.isSome_some, if_pos rfl]
            cases u with
            | link target => exact absurd hbelow (nodeAt_ne_link ht _ target)
            | file content => exact ih (place ++ [s]) hrest
            | dir inner => exact ih (place ++ [s]) hrest

/-! ### Paths -/

/-- Why a path is refused in every tree. -/
def refusal? (path : String) : Option TreeError :=
  if path.toList.contains '\x00' then some .nulInPath
  else if path.toList.isEmpty then some .notFound
  else if pathLimit ≤ path.utf8ByteSize then some .nameTooLong
  else none

/-- Where a path leads from a working directory in a tree without links. -/
def spotOf (t : Tree) (path : String) (here : List String) : Except TreeError Spot :=
  match refusal? path with
  | some e => .error e
  | none => descend t (startOf here path.toList) (segments path.toList)

lemma length_segments_le (cs : List Char) : (segments cs).length ≤ cs.length + 1 := by
  rw [segments, List.length_map]
  induction cs with
  | nil => exact Nat.le_refl 1
  | cons c cs ih =>
    unfold Path.segments
    split_ifs
    · exact Nat.succ_le_succ ih
    · cases h : Path.segments cs with
      | nil => exact absurd h (segments_ne_nil cs)
      | cons s ss =>
        rw [h] at ih
        exact Nat.le_succ_of_le ih

lemma length_toList_le (s : String) : s.toList.length ≤ s.utf8ByteSize := by
  rw [← String.ofList_toList (s := s), String.utf8ByteSize_ofList, String.toList_ofList]
  induction s.toList with
  | nil => exact Nat.le_refl 0
  | cons c cs ih =>
    have hc := c.utf8Size_pos
    rw [List.length_cons]
    simp only [String.utf8Len_cons]
    omega

/-- In a tree without links a path leads where its segments lead. -/
theorem resolve_eq {t : Tree} (ht : linkFree t = true) (follow : Bool) (path : String)
    (here : List String) :
    resolve t follow path here = (spotOf t path here).map (Spot.target t) := by
  unfold resolve spotOf refusal?
  dsimp only
  split_ifs with hnul hempty hlong
  · rfl
  · rfl
  · rfl
  · apply lookUp_eq_descend ht
    have hsegments := length_segments_le path.toList
    have hchars := length_toList_le path
    unfold pathLimit at hlong ⊢
    unfold linkLimit
    omega

/-! ### Single segments -/

/-- The segment names an entry. -/
def NamesEntry (s : String) : Prop :=
  staysHere s = false ∧ s ≠ ".." ∧ s.utf8ByteSize ≤ nameLimit

lemma isEntryName_iff {name : String} :
    isEntryName name = true ↔ NamesEntry name ∧ '/' ∉ name.toList := by
  unfold isEntryName NamesEntry
  simp only [Bool.and_eq_true, Bool.not_eq_true', bne_iff_ne, decide_eq_true_eq,
    List.contains_eq_mem, decide_eq_false_iff_not]
  tauto

section

variable {t : Tree} {place : List String} {s : String}

lemma advance_stay (hdir : nodeAt t place = some .dir) (hs : staysHere s = true)
    (rest : List String) : advance t place s rest = .ok (.found place) := by
  unfold advance
  rw [hdir]
  dsimp only
  rw [if_pos hs]

lemma advance_up (hdir : nodeAt t place = some .dir) (rest : List String) :
    advance t place ".." rest = .ok (.found place.dropLast) := by
  unfold advance
  rw [hdir]
  dsimp only
  rw [if_neg (by decide), if_pos rfl]

lemma advance_enter (hdir : nodeAt t place = some .dir) (hs : NamesEntry s)
    (hentry : nodeAt t (place ++ [s]) ≠ none) (rest : List String) :
    advance t place s rest = .ok (.found (place ++ [s])) := by
  unfold advance
  rw [hdir]
  dsimp only
  rw [if_neg (Bool.not_eq_true _ ▸ hs.1), if_neg hs.2.1, if_neg (Nat.not_lt.mpr hs.2.2),
    if_pos (Option.isSome_iff_ne_none.mpr hentry)]

/-- Where a segment leads on, it stays, leads up or enters. -/
lemma advance_found {rest next : List String} (h : advance t place s rest = .ok (.found next)) :
    nodeAt t place = some .dir ∧
      (staysHere s = true ∧ next = place ∨
        s = ".." ∧ next = place.dropLast ∨
        NamesEntry s ∧ nodeAt t (place ++ [s]) ≠ none ∧ next = place ++ [s]) := by
  unfold advance at h
  split at h
  · cases h
  · next hdir =>
    refine ⟨hdir, ?_⟩
    split_ifs at h with hstays hup hlong hentry
    · cases h
      exact .inl ⟨hstays, rfl⟩
    · cases h
      exact .inr (.inl ⟨hup, rfl⟩)
    · cases h
      exact .inr (.inr ⟨⟨Bool.not_eq_true _ ▸ hstays, hup, Nat.not_lt.mp hlong⟩,
        Option.isSome_iff_ne_none.mp hentry, rfl⟩)
    · cases h
  · cases h

/-- What follows a segment does not change where it leads on. -/
lemma advance_rest {rest next : List String} (h : advance t place s rest = .ok (.found next))
    (rest' : List String) : advance t place s rest' = .ok (.found next) := by
  obtain ⟨hdir, ⟨hs, rfl⟩ | ⟨rfl, rfl⟩ | ⟨hs, hentry, rfl⟩⟩ := advance_found h
  · exact advance_stay hdir hs rest'
  · exact advance_up hdir rest'
  · exact advance_enter hdir hs hentry rest'

/-- A segment misses only where a directory has no entry of its name, and only slashes may
follow. -/
lemma advance_missing {rest above : List String} {name : String} {asDirectory : Bool}
    (h : advance t place s rest = .ok (.missing above name asDirectory)) :
    nodeAt t place = some .dir ∧ NamesEntry s ∧ nodeAt t (place ++ [s]) = none ∧
      rest.all (·.isEmpty) = true ∧ above = place ∧ name = s ∧ asDirectory = !rest.isEmpty := by
  unfold advance at h
  split at h
  · cases h
  · next hdir =>
    split_ifs at h with hstays hup hlong hentry hempty
    · cases h
    · cases h
    · cases h
    · cases h
      exact ⟨hdir, ⟨Bool.not_eq_true _ ▸ hstays, hup, Nat.not_lt.mp hlong⟩,
        Option.not_isSome_iff_eq_none.mp hentry, hempty, rfl, rfl, rfl⟩
  · cases h

end

/-! ### Sequences of segments -/

section

variable {t : Tree}

lemma descend_cons_found {place rest : List String} {s : String} {q : List String}
    (h : descend t place (s :: rest) = .ok (.found q)) :
    ∃ next, advance t place s rest = .ok (.found next) ∧
      descend t next rest = .ok (.found q) := by
  unfold descend at h
  split at h
  · next next hnext => exact ⟨next, hnext, h⟩
  · next hstop => exact absurd h (hstop q)

lemma descend_cons {place rest : List String} {s : String} {next : List String}
    (h : advance t place s rest = .ok (.found next)) :
    descend t place (s :: rest) = descend t next rest := by
  rw [descend, h]

lemma descend_nil {place : List String} (h : nodeAt t place ≠ none) :
    descend t place [] = .ok (.found place) := by
  rw [descend, if_pos (Option.isSome_iff_ne_none.mpr h)]

lemma descend_nil_found {place q : List String} (h : descend t place [] = .ok (.found q)) :
    q = place ∧ nodeAt t place ≠ none := by
  unfold descend at h
  split_ifs at h with hnode
  cases h
  exact ⟨rfl, Option.isSome_iff_ne_none.mp hnode⟩

/-- There is something at a place to which segments lead. -/
lemma nodeAt_of_descend {place path q : List String}
    (h : descend t place path = .ok (.found q)) : nodeAt t q ≠ none := by
  induction path generalizing place with
  | nil =>
    obtain ⟨rfl, hnode⟩ := descend_nil_found h
    exact hnode
  | cons s rest ih =>
    obtain ⟨next, -, hrest⟩ := descend_cons_found h
    exact ih hrest

lemma descend_cons_missing {place rest above : List String} {s name : String} {asDirectory : Bool}
    (h : descend t place (s :: rest) = .ok (.missing above name asDirectory)) :
    (∃ next, advance t place s rest = .ok (.found next) ∧
        descend t next rest = .ok (.missing above name asDirectory)) ∨
      advance t place s rest = .ok (.missing above name asDirectory) := by
  unfold descend at h
  split at h
  · next next hnext => exact .inl ⟨next, hnext, h⟩
  · exact .inr h

/-- Segments miss at one of them that names no entry of a directory. -/
lemma descend_missing {place path above : List String} {name : String} {asDirectory : Bool}
    (h : descend t place path = .ok (.missing above name asDirectory)) :
    nodeAt t above = some .dir ∧ NamesEntry name ∧ name ∈ path ∧
      nodeAt t (above ++ [name]) = none := by
  induction path generalizing place with
  | nil =>
    unfold descend at h
    split_ifs at h
    cases h
  | cons s rest ih =>
    rcases descend_cons_missing h with ⟨next, -, hrest⟩ | hstop
    · obtain ⟨hdir, hname, hmem, hnone⟩ := ih hrest
      exact ⟨hdir, hname, List.mem_cons_of_mem s hmem, hnone⟩
    · obtain ⟨hdir, hname, hnone, -, rfl, rfl, -⟩ := advance_missing hstop
      exact ⟨hdir, hname, List.mem_cons_self, hnone⟩

/-- A name at the end of a path is where the path leads. -/
lemma descend_concat_found {s : String} (hstays : staysHere s = false) (hup : s ≠ "..")
    {place front q : List String} (h : descend t place (front ++ [s]) = .ok (.found q)) :
    ∃ above, q = above ++ [s] := by
  induction front generalizing place with
  | nil =>
    obtain ⟨next, hnext, hend⟩ := descend_cons_found h
    obtain ⟨rfl, -⟩ := descend_nil_found hend
    obtain ⟨-, ⟨hs, -⟩ | ⟨hs, -⟩ | ⟨-, -, rfl⟩⟩ := advance_found hnext
    · rw [hstays] at hs
      cases hs
    · exact absurd hs hup
    · exact ⟨place, rfl⟩
  | cons f front ih =>
    obtain ⟨next, -, hrest⟩ := descend_cons_found h
    exact ih hrest

lemma descend_concat_missing {s : String} (hstays : staysHere s = false)
    {place front above : List String} {name : String} {asDirectory : Bool}
    (h : descend t place (front ++ [s]) = .ok (.missing above name asDirectory)) :
    name = s ∧ asDirectory = false := by
  have hnonempty : s.isEmpty = false := (Bool.or_eq_false_iff.mp hstays).1
  induction front generalizing place with
  | nil =>
    rcases descend_cons_missing h with ⟨next, -, hend⟩ | hstop
    · unfold descend at hend
      split_ifs at hend
      cases hend
    · obtain ⟨-, -, -, -, -, rfl, rfl⟩ := advance_missing hstop
      exact ⟨rfl, rfl⟩
  | cons f front ih =>
    rw [List.cons_append] at h
    rcases descend_cons_missing h with ⟨next, -, hrest⟩ | hstop
    · exact ih hrest
    · obtain ⟨-, -, -, hempty, -, -, -⟩ := advance_missing hstop
      rw [List.all_append, Bool.and_eq_true, List.all_cons, hnonempty] at hempty
      exact absurd hempty.2 (by decide)

lemma descend_append_slash {place base p : List String}
    (h : descend t place (base ++ [""]) = .ok (.found p)) :
    descend t place base = .ok (.found p) := by
  induction base generalizing place with
  | nil =>
    obtain ⟨next, hnext, hend⟩ := descend_cons_found h
    obtain ⟨hdir, ⟨-, rfl⟩ | ⟨hs, -⟩ | ⟨hs, -⟩⟩ := advance_found hnext
    · exact hend
    · exact absurd hs (by decide)
    · exact absurd hs.1 (by decide)
  | cons s base ih =>
    rw [List.cons_append] at h
    obtain ⟨next, hnext, hrest⟩ := descend_cons_found h
    rw [descend_cons (advance_rest hnext base)]
    exact ih hrest

/-- More segments are followed from where the first ones lead. -/
lemma descend_append {place base p : List String} (h : descend t place base = .ok (.found p))
    (more : List String) : descend t place (base ++ more) = descend t p more := by
  induction base generalizing place with
  | nil =>
    obtain ⟨rfl, -⟩ := descend_nil_found h
    rfl
  | cons s base ih =>
    obtain ⟨next, hnext, hbase⟩ := descend_cons_found h
    rw [List.cons_append, descend_cons (advance_rest hnext (base ++ more))]
    exact ih hbase

/-- Where proper names lead. -/
lemma descend_names (ht : wellNamed t = true) {place names : List String}
    (h : nodeAt t (place ++ names) ≠ none) :
    descend t place names = .ok (.found (place ++ names)) := by
  induction names generalizing place with
  | nil =>
    rw [List.append_nil] at h ⊢
    exact descend_nil h
  | cons name names ih =>
    have hname : NamesEntry name := (isEntryName_iff.mp (isEntryName_of_nodeAt ht h)).1
    rw [List.append_cons] at h ⊢
    have hentry : nodeAt t (place ++ [name]) ≠ none := by
      cases names with
      | nil => rwa [List.append_nil] at h
      | cons other below => exact nodeAt_ne_none (nodeAt_eq_dir_of_below h)
    have hdir : nodeAt t place = some .dir := nodeAt_eq_dir_of_below hentry
    rw [descend_cons (advance_enter hdir hname hentry names)]
    exact ih h

end

/-! ### Accesses -/

section

variable {t : Tree} {path : String} {here place : List String}

/-- There is something where a path leads. -/
lemma nodeAt_of_spotOf (h : spotOf t path here = .ok (.found place)) : nodeAt t place ≠ none := by
  unfold spotOf at h
  split at h
  · cases h
  · exact nodeAt_of_descend h

lemma find_of_found (ht : linkFree t = true) (h : spotOf t path here = .ok (.found place)) :
    ∃ part, t.at? place = some part ∧ Tree.find t path here = .ok part := by
  obtain ⟨node, hnode⟩ := Option.ne_none_iff_exists'.mp (nodeAt_of_spotOf h)
  obtain ⟨part, hpart, -⟩ := Option.map_eq_some_iff.mp hnode
  refine ⟨part, hpart, ?_⟩
  unfold Tree.find
  rw [resolve_eq ht, h]
  change Except.ok ((t.at? place).getD .empty) = _
  rw [hpart, Option.getD_some]

lemma found_of_find (ht : linkFree t = true) {part : Tree} (h : Tree.find t path here = .ok part) :
    ∃ place, spotOf t path here = .ok (.found place) ∧ t.at? place = some part := by
  have hfind := h
  unfold Tree.find at hfind
  rw [resolve_eq ht] at hfind
  cases hspot : spotOf t path here with
  | error e =>
    rw [hspot] at hfind
    cases hfind
  | ok spot =>
    rw [hspot] at hfind
    cases spot with
    | missing above name asDirectory => cases hfind
    | found place =>
      obtain ⟨part', hpart, hfind'⟩ := find_of_found ht hspot
      rw [h, Except.ok.injEq] at hfind'
      exact ⟨place, rfl, hfind' ▸ hpart⟩

lemma find_of_error (ht : linkFree t = true) {e : TreeError} (h : spotOf t path here = .error e) :
    Tree.find t path here = .error e := by
  unfold Tree.find
  rw [resolve_eq ht, h]
  rfl

lemma isDir_iff (ht : linkFree t = true) :
    Tree.isDir t path here = true ↔
      ∃ place, spotOf t path here = .ok (.found place) ∧ nodeAt t place = some .dir := by
  unfold Tree.isDir
  constructor
  · intro h
    split at h
    · next entries hfind =>
      obtain ⟨place, hspot, hpart⟩ := found_of_find ht hfind
      exact ⟨place, hspot, nodeAt_of_at? hpart⟩
    · cases h
  · rintro ⟨place, hspot, hdir⟩
    obtain ⟨part, hpart, hfind⟩ := find_of_found ht hspot
    obtain ⟨entries, hentries⟩ := nodeAt_eq_dir_iff.mp hdir
    rw [hpart, Option.some.injEq] at hentries
    rw [hfind, hentries]

/-- The text of a content, or why there is none. -/
def textOf : Content → Except TreeError String
  | .text s => .ok s
  | .bytes _ => .error .notText

lemma readText_of_file (ht : linkFree t = true) (h : spotOf t path here = .ok (.found place))
    {content : Content} (hfile : nodeAt t place = some (.file content)) :
    Tree.readText t path here = textOf content := by
  obtain ⟨part, hpart, hfind⟩ := find_of_found ht h
  rw [nodeAt_eq_file_iff, hpart, Option.some.injEq] at hfile
  unfold Tree.readText
  rw [hfind, hfile]
  cases content <;> rfl

lemma readText_of_error (ht : linkFree t = true) {e : TreeError} (h : spotOf t path here = .error e) :
    Tree.readText t path here = .error e := by
  unfold Tree.readText
  rw [find_of_error ht h]
  rfl

end

end ServiceLinker.Proofs
