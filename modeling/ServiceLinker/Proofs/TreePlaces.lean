import Mathlib
import ServiceLinker.FileSystem.Tree

/-!
# Places of a tree

A place is a list of names that leads from the root of a tree downwards. Seen from its places a tree
is a map, and setting a part of the tree changes the map at one place only. This file also says
which trees are trees of directories: the names in a directory differ, and a path can reach them.
-/

namespace ServiceLinker.Proofs

open ServiceLinker.Tree (setEntry staysHere nameLimit)

/-! ### What stands at a place -/

/-- A part of a tree without what it holds. -/
inductive TreeNode where
  | file (content : Content)
  | link (target : String)
  | dir
  deriving DecidableEq

def nodeOf : Tree → TreeNode
  | .file content => .file content
  | .link target => .link target
  | .dir _ => .dir

/-- What stands at a place of a tree. -/
def nodeAt (t : Tree) (place : List String) : Option TreeNode := (t.at? place).map nodeOf

lemma nodeAt_ne_none {t : Tree} {place : List String} {node : TreeNode}
    (h : nodeAt t place = some node) : nodeAt t place ≠ none :=
  Option.ne_none_iff_exists'.mpr ⟨node, h⟩

lemma nodeAt_ne_dir {t : Tree} {place : List String} (h : nodeAt t place = none) :
    nodeAt t place ≠ some .dir := by
  rw [h]
  exact (Option.some_ne_none _).symm

lemma at?_append (t : Tree) (place more : List String) :
    t.at? (place ++ more) = (t.at? place).bind (Tree.at? more) := by
  induction place generalizing t with
  | nil => rfl
  | cons name place ih =>
    rw [List.cons_append, Tree.at?, Tree.at?, Option.bind_assoc]
    congr 1
    funext u
    exact ih u

lemma nodeAt_dir_cons (entries : List (String × Tree)) (name : String) (place : List String) :
    nodeAt (.dir entries) (name :: place) = (entries.lookup name).bind (nodeAt · place) := by
  rw [nodeAt, Tree.at?, Option.map_bind]
  rfl

lemma nodeAt_append (t : Tree) (place more : List String) :
    nodeAt t (place ++ more) = (t.at? place).bind (nodeAt · more) := by
  rw [nodeAt, at?_append, Option.map_bind]
  rfl

lemma nodeAt_eq_dir_iff {t : Tree} {place : List String} :
    nodeAt t place = some .dir ↔ ∃ entries, t.at? place = some (.dir entries) := by
  unfold nodeAt
  rw [Option.map_eq_some_iff]
  constructor
  · rintro ⟨u, hu, hnode⟩
    cases u <;> cases hnode
    exact ⟨_, hu⟩
  · rintro ⟨entries, hentries⟩
    exact ⟨_, hentries, rfl⟩

lemma nodeAt_eq_file_iff {t : Tree} {place : List String} {content : Content} :
    nodeAt t place = some (.file content) ↔ t.at? place = some (.file content) := by
  unfold nodeAt
  rw [Option.map_eq_some_iff]
  constructor
  · rintro ⟨u, hu, hnode⟩
    cases u <;> cases hnode
    exact hu
  · exact fun h => ⟨_, h, rfl⟩

/-- Only directories hold something. -/
lemma nodeAt_eq_dir_of_below {t : Tree} {place : List String} {name : String} {more : List String}
    (h : nodeAt t (place ++ name :: more) ≠ none) : nodeAt t place = some .dir := by
  rw [nodeAt_append] at h
  rw [nodeAt_eq_dir_iff]
  cases hpart : t.at? place with
  | none =>
    rw [hpart] at h
    exact absurd rfl h
  | some part =>
    rw [hpart, Option.bind_some] at h
    cases part with
    | dir entries => exact ⟨entries, rfl⟩
    | file content => exact absurd rfl h
    | link target => exact absurd rfl h

/-! ### Setting an entry -/

section

variable (name : String) (u : Tree) (entries : List (String × Tree))

lemma lookup_setEntry_self : (setEntry name u entries).lookup name = some u := by
  induction entries with
  | nil => simp [setEntry]
  | cons e entries ih =>
    unfold setEntry
    split_ifs with h
    · simp
    · rw [List.lookup_cons, beq_false_of_ne (Ne.symm h)]
      exact ih

lemma lookup_setEntry_of_ne {other : String} (h : other ≠ name) :
    (setEntry name u entries).lookup other = entries.lookup other := by
  induction entries with
  | nil =>
    rw [setEntry, List.lookup_cons, beq_false_of_ne h]
  | cons e entries ih =>
    unfold setEntry
    split_ifs with he
    · rw [List.lookup_cons, List.lookup_cons, he, beq_false_of_ne h]
    · rw [List.lookup_cons, List.lookup_cons, ih]

lemma setEntry_of_lookup (h : entries.lookup name = some u) :
    setEntry name u entries = entries := by
  induction entries with
  | nil => cases h
  | cons e entries ih =>
    unfold setEntry
    split_ifs with he
    · rw [List.lookup_cons, ← he, beq_self_eq_true] at h
      cases h
      rw [← he]
    · rw [List.lookup_cons, beq_false_of_ne (Ne.symm he)] at h
      rw [ih h]

lemma mem_setEntry {e : String × Tree} (h : e ∈ setEntry name u entries) :
    e = (name, u) ∨ e ∈ entries := by
  induction entries with
  | nil => exact .inl (List.mem_singleton.mp h)
  | cons f entries ih =>
    unfold setEntry at h
    split_ifs at h
    · exact (List.mem_cons.mp h).imp_right (List.mem_cons_of_mem f)
    · rcases List.mem_cons.mp h with rfl | h
      · exact .inr List.mem_cons_self
      · exact (ih h).imp_right (List.mem_cons_of_mem f)

lemma nodup_setEntry (h : (entries.map Prod.fst).Nodup) :
    ((setEntry name u entries).map Prod.fst).Nodup := by
  induction entries with
  | nil => exact List.nodup_singleton name
  | cons e entries ih =>
    rw [List.map_cons, List.nodup_cons] at h
    unfold setEntry
    split_ifs with he
    · rw [List.map_cons, List.nodup_cons, ← he]
      exact h
    · rw [List.map_cons, List.nodup_cons]
      refine ⟨?_, ih h.2⟩
      intro hmem
      obtain ⟨f, hf, hname⟩ := List.mem_map.mp hmem
      rcases mem_setEntry name u entries hf with rfl | hf
      · exact he hname.symm
      · exact h.1 (hname ▸ List.mem_map_of_mem hf)

end

/-! ### Setting a part -/

lemma put_nil (t part : Tree) : t.put [] part = part := by
  cases t <;> rfl

lemma put_of_lookup {entries : List (String × Tree)} {name : String} {u : Tree}
    (h : entries.lookup name = some u) (place : List String) (part : Tree) :
    Tree.put (.dir entries) (name :: place) part =
      .dir (setEntry name (u.put place part) entries) := by
  rw [Tree.put, h]

lemma put_singleton (entries : List (String × Tree)) (name : String) (part : Tree) :
    Tree.put (.dir entries) [name] part = .dir (setEntry name part entries) := by
  rw [Tree.put]
  cases entries.lookup name with
  | none => rfl
  | some u =>
    dsimp only
    rw [put_nil]

/-- A part that is there already is set to no effect. -/
lemma put_of_at? {t part : Tree} {place : List String} (h : t.at? place = some part) :
    t.put place part = t := by
  induction place generalizing t with
  | nil =>
    rw [put_nil]
    exact (Option.some.inj h).symm
  | cons name place ih =>
    cases t with
    | file content => rfl
    | link target => rfl
    | dir entries =>
      rw [Tree.at?] at h
      obtain ⟨u, hu, hpart⟩ := Option.bind_eq_some_iff.mp h
      change entries.lookup name = some u at hu
      rw [put_of_lookup hu, ih hpart, setEntry_of_lookup name u entries hu]

/-- The place can take a new file or an empty directory: it lies in a directory and holds
nothing. -/
structure CanTake (t : Tree) (above : List String) (name : String) : Prop where
  dir_above : nodeAt t above = some .dir
  nothing_below : ∀ other below, nodeAt t (above ++ name :: other :: below) = none

lemma canTake_cons {entries : List (String × Tree)} {first : String} {above : List String}
    {name : String} (h : CanTake (.dir entries) (first :: above) name) :
    ∃ u, entries.lookup first = some u ∧ CanTake u above name := by
  have hdir := h.dir_above
  rw [nodeAt_dir_cons] at hdir
  obtain ⟨u, hu, habove⟩ := Option.bind_eq_some_iff.mp hdir
  refine ⟨u, hu, habove, ?_⟩
  intro other below
  have hnothing := h.nothing_below other below
  rwa [List.cons_append, nodeAt_dir_cons, hu, Option.bind_some] at hnothing

/-- Setting a file or an empty directory changes what stands at its place, and nothing else. -/
lemma nodeAt_put {t : Tree} {above : List String} {name : String} (h : CanTake t above name)
    {part : Tree} (hpart : ∀ other below, nodeAt part (other :: below) = none)
    (place : List String) :
    nodeAt (t.put (above ++ [name]) part) place =
      if place = above ++ [name] then some (nodeOf part) else nodeAt t place := by
  induction above generalizing t place with
  | nil =>
    obtain ⟨entries, hentries⟩ := nodeAt_eq_dir_iff.mp h.dir_above
    cases hentries
    rw [List.nil_append, put_singleton]
    cases place with
    | nil => rfl
    | cons first rest =>
      rw [nodeAt_dir_cons]
      by_cases hfirst : first = name
      · rw [hfirst, lookup_setEntry_self, Option.bind_some]
        cases rest with
        | nil => rw [if_pos rfl]; rfl
        | cons other below =>
          have hnothing := h.nothing_below other below
          rw [if_neg (by simp), hpart other below]
          exact hnothing.symm
      · rw [lookup_setEntry_of_ne name part entries hfirst, ← nodeAt_dir_cons,
          if_neg fun heq => hfirst (List.cons.inj heq).1]
  | cons first above ih =>
    obtain ⟨entries, hentries⟩ : ∃ entries, t = .dir entries := by
      have hroot : nodeAt t ([] ++ first :: above) ≠ none := nodeAt_ne_none h.dir_above
      obtain ⟨entries, hentries⟩ := nodeAt_eq_dir_iff.mp (nodeAt_eq_dir_of_below hroot)
      exact ⟨entries, Option.some.inj hentries⟩
    subst hentries
    obtain ⟨u, hu, hbelow⟩ := canTake_cons h
    rw [List.cons_append, put_of_lookup hu]
    cases place with
    | nil => rfl
    | cons other place =>
      rw [nodeAt_dir_cons, nodeAt_dir_cons]
      by_cases hother : other = first
      · rw [hother, lookup_setEntry_self, hu, Option.bind_some, Option.bind_some, ih hbelow place]
        simp only [List.cons.injEq, true_and]
      · rw [lookup_setEntry_of_ne first _ entries hother,
          if_neg fun heq => hother (List.cons.inj heq).1]

/-! ### Trees of directories -/

/-- The name of an entry that a path can reach. -/
def isEntryName (name : String) : Bool :=
  !staysHere name && name != ".." && !name.toList.contains '/' &&
    decide (name.utf8ByteSize ≤ nameLimit)

mutual

/-- The entries of each directory have different names that a path can reach. -/
def wellNamed : Tree → Bool
  | .dir entries => decide (entries.map Prod.fst).Nodup && entriesWellNamed entries
  | _ => true

def entriesWellNamed : List (String × Tree) → Bool
  | [] => true
  | e :: entries => (isEntryName e.1 && wellNamed e.2) && entriesWellNamed entries

end

mutual

/-- There are no symbolic links. -/
def linkFree : Tree → Bool
  | .dir entries => entriesLinkFree entries
  | .file _ => true
  | .link _ => false

def entriesLinkFree : List (String × Tree) → Bool
  | [] => true
  | e :: entries => linkFree e.2 && entriesLinkFree entries

end

lemma entriesWellNamed_iff {entries : List (String × Tree)} :
    entriesWellNamed entries = true ↔
      ∀ e ∈ entries, isEntryName e.1 = true ∧ wellNamed e.2 = true := by
  induction entries with
  | nil => simp [entriesWellNamed]
  | cons e entries ih =>
    rw [entriesWellNamed, Bool.and_eq_true, Bool.and_eq_true, ih, List.forall_mem_cons]

lemma wellNamed_dir_iff {entries : List (String × Tree)} :
    wellNamed (.dir entries) = true ↔ (entries.map Prod.fst).Nodup ∧
      ∀ e ∈ entries, isEntryName e.1 = true ∧ wellNamed e.2 = true := by
  rw [wellNamed, Bool.and_eq_true, decide_eq_true_eq, entriesWellNamed_iff]

lemma linkFree_dir_iff {entries : List (String × Tree)} :
    linkFree (.dir entries) = true ↔ ∀ e ∈ entries, linkFree e.2 = true := by
  rw [linkFree]
  induction entries with
  | nil => simp [entriesLinkFree]
  | cons e entries ih => rw [entriesLinkFree, Bool.and_eq_true, ih, List.forall_mem_cons]

lemma mem_of_lookup {entries : List (String × Tree)} {name : String} {u : Tree}
    (h : entries.lookup name = some u) : (name, u) ∈ entries := by
  obtain ⟨front, rest, hentries, -⟩ := List.lookup_eq_some_iff.mp h
  rw [hentries]
  exact List.mem_append_right front List.mem_cons_self

/-- A property that the parts of a tree share with it holds of the part at every place. -/
lemma of_at? (P : Tree → Prop) (hP : ∀ entries, P (.dir entries) → ∀ e ∈ entries, P e.2)
    {t part : Tree} (ht : P t) {place : List String} (h : t.at? place = some part) : P part := by
  induction place generalizing t with
  | nil => exact Option.some.inj h ▸ ht
  | cons name place ih =>
    rw [Tree.at?] at h
    obtain ⟨u, hu, hpart⟩ := Option.bind_eq_some_iff.mp h
    cases t with
    | file content => cases hu
    | link target => cases hu
    | dir entries => exact ih (hP entries ht _ (mem_of_lookup hu)) hpart

lemma wellNamed_of_at? {t part : Tree} (ht : wellNamed t = true) {place : List String}
    (h : t.at? place = some part) : wellNamed part = true :=
  of_at? (wellNamed · = true) (fun _ hdir e he => ((wellNamed_dir_iff.mp hdir).2 e he).2) ht h

lemma nodeAt_ne_link {t : Tree} (ht : linkFree t = true) (place : List String) (target : String) :
    nodeAt t place ≠ some (.link target) := by
  intro h
  obtain ⟨part, hpart, hnode⟩ := Option.map_eq_some_iff.mp h
  have hfree : linkFree part = true :=
    of_at? (linkFree · = true) (fun _ hdir e he => linkFree_dir_iff.mp hdir e he) ht hpart
  cases part <;> cases hnode
  cases hfree

/-- Only names that a path can reach lead anywhere. -/
lemma isEntryName_of_nodeAt {t : Tree} (ht : wellNamed t = true) {place more : List String}
    {name : String} (h : nodeAt t (place ++ name :: more) ≠ none) : isEntryName name = true := by
  obtain ⟨entries, hentries⟩ := nodeAt_eq_dir_iff.mp (nodeAt_eq_dir_of_below h)
  have hnamed := wellNamed_of_at? ht hentries
  rw [nodeAt_append, hentries, Option.bind_some, nodeAt_dir_cons] at h
  cases hu : entries.lookup name with
  | none =>
    rw [hu] at h
    exact absurd rfl h
  | some u => exact ((wellNamed_dir_iff.mp hnamed).2 _ (mem_of_lookup hu)).1

/-! ### Trees of directories and files -/

/-- A tree of directories and files, without links. -/
structure Plain (t : Tree) : Prop where
  named : wellNamed t = true
  unlinked : linkFree t = true

lemma plain_dir_iff {entries : List (String × Tree)} :
    Plain (.dir entries) ↔ (entries.map Prod.fst).Nodup ∧
      ∀ e ∈ entries, isEntryName e.1 = true ∧ Plain e.2 := by
  constructor
  · rintro ⟨hnamed, hfree⟩
    obtain ⟨hnodup, hentries⟩ := wellNamed_dir_iff.mp hnamed
    exact ⟨hnodup, fun e he =>
      ⟨(hentries e he).1, (hentries e he).2, linkFree_dir_iff.mp hfree e he⟩⟩
  · rintro ⟨hnodup, hentries⟩
    exact ⟨wellNamed_dir_iff.mpr ⟨hnodup, fun e he => ⟨(hentries e he).1, (hentries e he).2.named⟩⟩,
      linkFree_dir_iff.mpr fun e he => (hentries e he).2.unlinked⟩

lemma plain_setEntry {entries : List (String × Tree)} (h : Plain (.dir entries)) {name : String}
    (hname : isEntryName name = true) {u : Tree} (hu : Plain u) :
    Plain (.dir (setEntry name u entries)) := by
  rw [plain_dir_iff] at h ⊢
  refine ⟨nodup_setEntry name u entries h.1, ?_⟩
  intro e he
  rcases mem_setEntry name u entries he with rfl | he
  · exact ⟨hname, hu⟩
  · exact h.2 e he

/-- A tree stays plain when a plain part is set under a proper name. -/
lemma plain_put {t part : Tree} (ht : Plain t) (hpart : Plain part) {above : List String}
    {name : String} (hname : isEntryName name = true) (h : nodeAt t above = some .dir) :
    Plain (t.put (above ++ [name]) part) := by
  induction above generalizing t with
  | nil =>
    obtain ⟨entries, hentries⟩ := nodeAt_eq_dir_iff.mp h
    cases hentries
    rw [List.nil_append, put_singleton]
    exact plain_setEntry ht hname hpart
  | cons first above ih =>
    cases t with
    | file content => cases h
    | link target => cases h
    | dir entries =>
      rw [nodeAt_dir_cons] at h
      obtain ⟨u, hu, habove⟩ := Option.bind_eq_some_iff.mp h
      obtain ⟨hfirst, hplain⟩ := (plain_dir_iff.mp ht).2 _ (mem_of_lookup hu)
      rw [List.cons_append, put_of_lookup hu]
      exact plain_setEntry ht hfirst (ih hplain habove)

end ServiceLinker.Proofs
