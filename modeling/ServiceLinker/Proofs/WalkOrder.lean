import ServiceLinker.Proofs.ScriptRequests
import ServiceLinker.Proofs.TreeListing

/-!
# The order of a walk

A walk lists the files below its root once each, in the order of the bytes of their names, one name
after the other. In which order the entries of a tree were made does not show: trees with the same
places are walked, read and linked alike, whether or not they hold links.
-/

namespace ServiceLinker.Proofs

open ServiceLinker.Tree (Target lookUp resolve segments staysHere startOf nameLimit files listedPath
  walkFiles)
open ServiceLinker.Path (Component components)

/-! ### The bytes of names -/

/-- The bytes of a file name. -/
def nameBytes (name : String) : List UInt8 := name.toUTF8.data.toList

lemma nameBytes_eq_flatMap (name : String) :
    nameBytes name = name.toList.flatMap String.utf8EncodeChar := by
  rw [nameBytes, String.toUTF8_eq_toByteArray, ← String.ofList_toList (s := name),
    String.toByteArray_ofList, String.toList_ofList, List.utf8Encode, List.data_toByteArray]

/-- The first byte decides, unless it is the same. -/
lemma ofNat_cons_lt {m n : Nat} {u v : List UInt8} (hle : m ≤ n) (hn : n < 256)
    (heq : m = n → u < v) : UInt8.ofNat m :: u < UInt8.ofNat n :: v := by
  rcases Nat.lt_or_eq_of_le hle with h | rfl
  · refine List.cons_lt_cons_iff.mpr (.inl ?_)
    rw [UInt8.lt_iff_toNat_lt, UInt8.toNat_ofNat', UInt8.toNat_ofNat']
    omega
  · exact List.cons_lt_cons_iff.mpr (.inr ⟨rfl, heq rfl⟩)

/-- Encoding keeps the order of characters, whatever follows. -/
lemma utf8EncodeChar_append_lt {c d : Char} (h : c < d) (u v : List UInt8) :
    String.utf8EncodeChar c ++ u < String.utf8EncodeChar d ++ v := by
  have hlt : c.val.toNat < d.val.toNat := UInt32.lt_iff_toNat_lt.mp (Char.lt_def.mp h)
  have hmax : d.val.toNat < 1114112 := by
    rcases d.valid with h | h <;> omega
  unfold String.utf8EncodeChar
  generalize c.val.toNat = x at hlt ⊢
  generalize d.val.toNat = y at hlt hmax ⊢
  -- each byte holds six more bits than the one before
  have hbits : ∀ n : Nat, n / 4096 = n / 64 / 64 ∧ n / 262144 = n / 64 / 64 / 64 := by omega
  obtain ⟨⟨hx, hx'⟩, hy, hy'⟩ := And.intro (hbits x) (hbits y)
  dsimp only
  rw [hx, hx', hy, hy']
  split_ifs <;> try omega
  -- the first byte tells the lengths apart
  all_goals try exact ofNat_cons_lt (by omega) (by omega) fun h₁ => by omega
  · exact ofNat_cons_lt (by omega) (by omega) fun h₁ =>
      ofNat_cons_lt (by omega) (by omega) fun h₂ => by omega
  · exact ofNat_cons_lt (by omega) (by omega) fun h₁ =>
      ofNat_cons_lt (by omega) (by omega) fun h₂ =>
        ofNat_cons_lt (by omega) (by omega) fun h₃ => by omega
  · exact ofNat_cons_lt (by omega) (by omega) fun h₁ =>
      ofNat_cons_lt (by omega) (by omega) fun h₂ =>
        ofNat_cons_lt (by omega) (by omega) fun h₃ =>
          ofNat_cons_lt (by omega) (by omega) fun h₄ => by omega

lemma flatMap_utf8EncodeChar_lt {cs ds : List Char} (h : cs < ds) :
    cs.flatMap String.utf8EncodeChar < ds.flatMap String.utf8EncodeChar := by
  induction cs generalizing ds with
  | nil =>
    cases ds with
    | nil => exact absurd h (List.lt_irrefl _)
    | cons d ds =>
      obtain ⟨b, bs, hb⟩ := List.exists_cons_of_ne_nil (String.utf8EncodeChar_ne_nil (c := d))
      rw [List.flatMap_nil, List.flatMap_cons, hb]
      exact List.nil_lt_cons b _
  | cons c cs ih =>
    cases ds with
    | nil => exact absurd h (List.not_lt_nil _)
    | cons d ds =>
      rw [List.flatMap_cons, List.flatMap_cons]
      rcases List.cons_lt_cons_iff.mp h with hlt | ⟨rfl, hlt⟩
      · exact utf8EncodeChar_append_lt hlt _ _
      · exact List.append_left_lt (ih hlt)

/-- Names are in the order of their bytes. -/
lemma nameBytes_lt {name name' : String} (h : name < name') : nameBytes name < nameBytes name' := by
  rw [nameBytes_eq_flatMap, nameBytes_eq_flatMap]
  exact flatMap_utf8EncodeChar_lt (String.lt_iff.mp h)

/-- Lists of names compare as lists of their bytes. -/
lemma map_nameBytes_lt {names names' : List String} (h : names < names') :
    names.map nameBytes < names'.map nameBytes :=
  List.map_lt (fun _ _ => nameBytes_lt) h

/-! ### Trees with the same places -/

/-- The same stands at every place of two trees. -/
def SamePlaces (t t' : Tree) : Prop := ∀ place, nodeAt t' place = nodeAt t place

/-- The order in which the entries of a directory were made does not change its places. -/
lemma samePlaces_of_perm {entries entries' : List (String × Tree)}
    (hnodup : (entries.map Prod.fst).Nodup) (hperm : entries'.Perm entries) :
    SamePlaces (.dir entries) (.dir entries') := by
  have hnodup' : (entries'.map Prod.fst).Nodup := (hperm.map Prod.fst).nodup_iff.mpr hnodup
  have hlookup (name : String) : entries'.lookup name = entries.lookup name := by
    ext u
    exact ⟨fun h => lookup_of_mem hnodup (hperm.mem_iff.mp (mem_of_lookup h)),
      fun h => lookup_of_mem hnodup' (hperm.mem_iff.mpr (mem_of_lookup h))⟩
  intro place
  cases place with
  | nil => rfl
  | cons name place => rw [nodeAt_dir_cons, nodeAt_dir_cons, hlookup]

/-- Parts that agree in what stands there are both missing, or of one kind. -/
lemma cases_of_nodes {part part' : Option Tree} (h : part'.map nodeOf = part.map nodeOf) :
    part = none ∧ part' = none ∨
      (∃ content, part = some (.file content) ∧ part' = some (.file content)) ∨
      (∃ target, part = some (.link target) ∧ part' = some (.link target)) ∨
      ∃ entries entries', part = some (.dir entries) ∧ part' = some (.dir entries') := by
  rcases part with - | (content | target | entries) <;>
    rcases part' with - | (content' | target' | entries') <;> cases h
  · exact .inl ⟨rfl, rfl⟩
  · exact .inr (.inl ⟨content, rfl, rfl⟩)
  · exact .inr (.inr (.inl ⟨target, rfl, rfl⟩))
  · exact .inr (.inr (.inr ⟨entries, entries', rfl, rfl⟩))

/-- Lookups in two trees end alike: at the same place, at the same missing name, or for the same
reason. -/
inductive EndAlike (t t' : Tree) : Except TreeError Target → Except TreeError Target → Prop
  | error (e : TreeError) : EndAlike t t' (.error e) (.error e)
  | found {place : List String} {part part' : Tree} (h : t.at? place = some part)
      (h' : t'.at? place = some part') :
      EndAlike t t' (.ok (.found place part)) (.ok (.found place part'))
  | missing (above : List String) (name : String) (asDirectory : Bool) :
      EndAlike t t' (.ok (.missing above name asDirectory)) (.ok (.missing above name asDirectory))

section

variable {t t' : Tree} (h : SamePlaces t t')

include h

/-- Looking a path up depends on the places of a tree only. -/
lemma lookUp_alike (follow : Bool) (fuel links : Nat) (place path : List String) :
    EndAlike t t' (lookUp t follow fuel links place path)
      (lookUp t' follow fuel links place path) := by
  induction fuel generalizing links place path with
  | zero => exact .error _
  | succ fuel ih =>
    unfold lookUp
    rcases cases_of_nodes (h place) with ⟨hpart, hpart'⟩ | ⟨content, hpart, hpart'⟩ |
      ⟨target, hpart, hpart'⟩ | ⟨entries, entries', hpart, hpart'⟩
    · rw [hpart, hpart']
      exact .error _
    · rw [hpart, hpart']
      cases path with
      | nil => exact .found hpart hpart'
      | cons s rest => exact .error _
    · rw [hpart, hpart']
      cases path with
      | nil => exact .found hpart hpart'
      | cons s rest => exact .error _
    rw [hpart, hpart']
    cases path with
    | nil => exact .found hpart hpart'
    | cons s rest =>
      have hentry : (entries'.lookup s).map nodeOf = (entries.lookup s).map nodeOf := by
        rw [← at?_entry hpart', ← at?_entry hpart]
        exact h (place ++ [s])
      dsimp only
      by_cases hstays : staysHere s = true
      · rw [if_pos hstays, if_pos hstays]
        exact ih links place rest
      rw [if_neg hstays, if_neg hstays]
      by_cases hup : s = ".."
      · rw [if_pos hup, if_pos hup]
        exact ih links place.dropLast rest
      rw [if_neg hup, if_neg hup]
      by_cases hlong : nameLimit < s.utf8ByteSize
      · rw [if_pos hlong, if_pos hlong]
        exact .error _
      rw [if_neg hlong, if_neg hlong]
      rcases cases_of_nodes hentry with ⟨hu, hu'⟩ | ⟨content, hu, hu'⟩ | ⟨target, hu, hu'⟩ |
        ⟨inner, inner', hu, hu'⟩
      · rw [hu, hu']
        dsimp only
        split_ifs
        · exact .missing _ _ _
        · exact .error _
      · rw [hu, hu']
        exact ih links (place ++ [s]) rest
      · rw [hu, hu']
        dsimp only
        by_cases hstop : (rest.isEmpty && !follow) = true
        · rw [if_pos hstop, if_pos hstop]
          exact .found ((at?_entry hpart s).trans hu) ((at?_entry hpart' s).trans hu')
        rw [if_neg hstop, if_neg hstop]
        cases links with
        | zero => exact .error _
        | succ links =>
          dsimp only
          split_ifs
          · exact .error _
          · exact ih links (startOf place target.toList) (segments target.toList ++ rest)
      · rw [hu, hu']
        exact ih links (place ++ [s]) rest

lemma resolve_alike (follow : Bool) (path : String) (here : List String) :
    EndAlike t t' (resolve t follow path here) (resolve t' follow path here) := by
  unfold resolve
  dsimp only
  split_ifs
  · exact .error _
  · exact .error _
  · exact .error _
  · exact lookUp_alike h _ _ _ _ _

/-- A path leads nowhere, for the same reason, or to the same place. -/
lemma find_alike (path : String) (here : List String) :
    (∃ e, Tree.find t path here = .error e ∧ Tree.find t' path here = .error e) ∨
      ∃ place part part', Tree.find t path here = .ok part ∧ Tree.find t' path here = .ok part' ∧
        t.at? place = some part ∧ t'.at? place = some part' := by
  have halike := resolve_alike h true path here
  unfold Tree.find
  generalize resolve t true path here = x at halike ⊢
  generalize resolve t' true path here = x' at halike ⊢
  cases halike with
  | error e => exact .inl ⟨e, rfl, rfl⟩
  | found hpart hpart' => exact .inr ⟨_, _, _, rfl, rfl, hpart, hpart'⟩
  | missing above name asDirectory => exact .inl ⟨.notFound, rfl, rfl⟩

lemma samePlaces_of_at? {place : List String} {part part' : Tree} (hpart : t.at? place = some part)
    (hpart' : t'.at? place = some part') : SamePlaces part part' := by
  intro more
  have hsame := h (place ++ more)
  rwa [nodeAt_append, nodeAt_append, hpart, hpart', Option.bind_some, Option.bind_some] at hsame

end

/-- A listing depends on the places of a tree only. -/
lemma files_alike {part part' : Tree} (hnamed : wellNamed part = true)
    (hnamed' : wellNamed part' = true) (h : SamePlaces part part') : files part' = files part := by
  refine List.Pairwise.eq_of_mem_iff (pairwise_files part' hnamed') (pairwise_files part hnamed) ?_
  intro names
  rw [mem_files_iff hnamed', mem_files_iff hnamed, h names]

section

variable {t t' : Tree} (ht : wellNamed t = true) (ht' : wellNamed t' = true)
  (h : SamePlaces t t')

include ht ht' h

/-- A path leads nowhere, for the same reason, or to equal files, to equal links or to directories
with the same files. -/
lemma find_cases (path : String) (here : List String) :
    (∃ e, Tree.find t path here = .error e ∧ Tree.find t' path here = .error e) ∨
      (∃ content, Tree.find t path here = .ok (.file content) ∧
        Tree.find t' path here = .ok (.file content)) ∨
      (∃ target, Tree.find t path here = .ok (.link target) ∧
        Tree.find t' path here = .ok (.link target)) ∨
      ∃ entries entries', Tree.find t path here = .ok (.dir entries) ∧
        Tree.find t' path here = .ok (.dir entries') ∧
        files (.dir entries') = files (.dir entries) := by
  rcases find_alike h path here with ⟨e, hfind, hfind'⟩ |
    ⟨place, part, part', hfind, hfind', hpart, hpart'⟩
  · exact .inl ⟨e, hfind, hfind'⟩
  have hsame := samePlaces_of_at? h hpart hpart'
  have hfiles := files_alike (wellNamed_of_at? ht hpart) (wellNamed_of_at? ht' hpart') hsame
  have hnode : (some part').map nodeOf = (some part).map nodeOf := hsame []
  rcases cases_of_nodes hnode with ⟨hnone, -⟩ | ⟨content, hu, hu'⟩ | ⟨target, hu, hu'⟩ |
    ⟨entries, entries', hu, hu'⟩
  · cases hnone
  · cases hu
    cases hu'
    exact .inr (.inl ⟨content, hfind, hfind'⟩)
  · cases hu
    cases hu'
    exact .inr (.inr (.inl ⟨target, hfind, hfind'⟩))
  · cases hu
    cases hu'
    exact .inr (.inr (.inr ⟨entries, entries', hfind, hfind', hfiles⟩))

lemma walkFiles_alike (root : String) (here : List String) :
    walkFiles t' root here = walkFiles t root here := by
  rcases find_cases ht ht' h root here with ⟨e, hfind, hfind'⟩ | ⟨content, hfind, hfind'⟩ |
    ⟨target, hfind, hfind'⟩ | ⟨entries, entries', hfind, hfind', hfiles⟩
  · rw [Tree.walkFiles, Tree.walkFiles, hfind, hfind']
  · rw [Tree.walkFiles, Tree.walkFiles, hfind, hfind']
  · rw [Tree.walkFiles, Tree.walkFiles, hfind, hfind']
  · rw [walkFiles_of_find hfind, walkFiles_of_find hfind', hfiles]

lemma readText_alike (path : String) (here : List String) :
    Tree.readText t' path here = Tree.readText t path here := by
  unfold Tree.readText
  rcases find_cases ht ht' h path here with ⟨e, hfind, hfind'⟩ | ⟨content, hfind, hfind'⟩ |
    ⟨target, hfind, hfind'⟩ | ⟨entries, entries', hfind, hfind', -⟩ <;> rw [hfind, hfind']; rfl

lemma hasPath_alike (path : String) (here : List String) :
    Tree.hasPath t' path here = Tree.hasPath t path here := by
  unfold Tree.hasPath
  rcases find_cases ht ht' h path here with ⟨e, hfind, hfind'⟩ | ⟨content, hfind, hfind'⟩ |
    ⟨target, hfind, hfind'⟩ | ⟨entries, entries', hfind, hfind', -⟩ <;> rw [hfind, hfind']; rfl

lemma answer_alike {r : Request} (hr : OnlyReads r) (here : List String) :
    (Tree.answer here r t').1 = (Tree.answer here r t).1 := by
  cases r with
  | walkFiles root => exact congrArg Tree.worded (walkFiles_alike ht ht' h root here)
  | readText path => exact congrArg Tree.worded (readText_alike ht ht' h path here)
  | write path text => exact absurd hr id
  | «exists» path => exact hasPath_alike ht ht' h path here

end

/-! ### Listed paths -/

/-- Below its root a listed path has the names as its components. -/
lemma components_listedPath {root : String} (hroot : root ≠ "") {names : List String}
    (hne : names ≠ []) (h : ∀ name ∈ names, IsFileName name.toList) :
    components (listedPath root names) =
      components root ++ names.map fun name => .name name.toList := by
  have hsegments := segments_intercalate_names hne fun name hname => (h name hname).1
  have hhead : ("/".intercalate names).toList.head? ≠ some '/' := by
    intro hhead
    obtain ⟨rest, hrest⟩ := List.head?_eq_some_iff.mp hhead
    obtain ⟨name, more, rfl⟩ := List.exists_cons_of_ne_nil hne
    rw [hrest, Path.segments, if_pos rfl, List.map_cons, List.cons.injEq] at hsegments
    have hname := (h name List.mem_cons_self).2
    rw [← hsegments.1] at hname
    cases hname
  have hjoin : listedPath root names = Path.join root ("/".intercalate names) := by
    unfold listedPath Path.join
    rw [if_neg hhead, if_neg fun hempty => hroot (String.isEmpty_iff.mp hempty)]
    split_ifs <;> rfl
  rw [hjoin, components_join_relative hroot hhead, hsegments, List.filterMap_map,
    List.append_cancel_left_eq, ← List.filterMap_eq_map]
  exact List.filterMap_congr fun name hname => (h name hname).2

/-- Different names below a root are different paths. -/
lemma eq_of_listedPath_eq {root : String} (hroot : root ≠ "") {names names' : List String}
    (hne : names ≠ []) (hne' : names' ≠ []) (h : ∀ name ∈ names, IsFileName name.toList)
    (h' : ∀ name ∈ names', IsFileName name.toList)
    (heq : listedPath root names = listedPath root names') : names = names' := by
  have hcomponents := congrArg components heq
  rw [components_listedPath hroot hne h, components_listedPath hroot hne' h',
    List.append_cancel_left_eq] at hcomponents
  refine List.map_injective_iff.mpr ?_ hcomponents
  intro name name' hname
  exact String.toList_inj.mp (Component.name.inj hname)

/-! ### Walks -/

lemma ne_empty_of_find {t part : Tree} {root : String} {here : List String}
    (h : Tree.find t root here = .ok part) : root ≠ "" := by
  rintro rfl
  cases h

lemma wellNamed_of_find {t part : Tree} (ht : wellNamed t = true) {path : String}
    {here : List String} (h : Tree.find t path here = .ok part) : wellNamed part = true := by
  rcases find_alike (fun _ => rfl : SamePlaces t t) path here with ⟨e, herror, -⟩ |
    ⟨place, found, -, hfound, -, hat, -⟩
  · rw [herror] at h
    cases h
  · rw [hfound, Except.ok.injEq] at h
    exact wellNamed_of_at? ht (h ▸ hat)

/-- A walk of a directory, or of a link to one, lists the files that are reached from there through
directories alone: each once, and in strictly ascending order of the names below the root, compared
one after the other by their bytes. Trees with the same places are walked and linked alike, whatever
the order of their entries. -/
theorem walkFiles_canonical {t : Tree} (ht : wellNamed t = true) (here : List String)
    (root : String) :
    (∀ entries, Tree.find t root here = .ok (.dir entries) →
      ∃ listing : List (List String),
        walkFiles t root here = .ok (listing.map (listedPath root)) ∧
        (listing.map (listedPath root)).Nodup ∧
        (∀ names, names ∈ listing ↔
          names ≠ [] ∧ ∃ content, nodeAt (.dir entries) names = some (.file content)) ∧
        (∀ names ∈ listing, components (listedPath root names) =
          components root ++ names.map fun name => .name name.toList) ∧
        listing.Pairwise fun names names' => names.map nameBytes < names'.map nameBytes) ∧
    ∀ t', wellNamed t' = true → SamePlaces t t' →
      walkFiles t' root here = walkFiles t root here ∧
      ∀ c, ∃ answer log,
        (linkTree root c).run (Tree.fileSystem here) t = ⟨.ok answer, t, log⟩ ∧
        (linkTree root c).run (Tree.fileSystem here) t' = ⟨.ok answer, t', log⟩ := by
  refine ⟨fun entries hfind => ?_, fun t' ht' hsame => ⟨walkFiles_alike ht ht' hsame root here, ?_⟩⟩
  · have hnamed := wellNamed_of_find ht hfind
    have hroot := ne_empty_of_find hfind
    have hmem (names : List String) : names ∈ files (.dir entries) ↔
        names ≠ [] ∧ ∃ content, nodeAt (.dir entries) names = some (.file content) :=
      mem_files_iff hnamed
    have hfileNames : ∀ names ∈ files (.dir entries), ∀ name ∈ names, IsFileName name.toList := by
      intro names hnames name hname
      obtain ⟨-, content, hfile⟩ := (hmem names).mp hnames
      have hthere : nodeAt (.dir entries) ([] ++ names) ≠ none := nodeAt_ne_none hfile
      exact isFileName_of_isEntryName (isEntryName_of_mem hnamed hthere hname)
    have hascending := pairwise_files (.dir entries) hnamed
    refine ⟨files (.dir entries), ?_, ?_, hmem, ?_, hascending.imp map_nameBytes_lt⟩
    · exact walkFiles_of_find hfind
    · refine List.Nodup.map_on ?_ (hascending.imp ne_of_lt)
      intro names hnames names' hnames' hpath
      exact eq_of_listedPath_eq hroot ((hmem names).mp hnames).1 ((hmem names').mp hnames').1
        (hfileNames names hnames) (hfileNames names' hnames') hpath
    · intro names hnames
      exact components_listedPath hroot ((hmem names).mp hnames).1 (hfileNames names hnames)
  · intro c
    refine run_of_asks (fun r hr => ⟨(Tree.answer here r t).1, answer_of_onlyReads hr here t, ?_⟩)
      (asks_linkTree root c)
    rw [answer_of_onlyReads hr here t', answer_alike ht ht' hsame hr here]

/-- A directory with a link to itself. -/
def loopedEntries : List (String × Tree) :=
  [("top", .link "/"), ("a.cs", .file (.text "")), ("a", .dir [("z.cs", .file (.text ""))])]

/-- The root is a link with an absolute target, one directory above the one to work in. The walk
does not enter the link below its root, and it is not in the order of the paths. -/
theorem walkFiles_canonical_loopedEntries :
    wellNamed (.dir loopedEntries) = true ∧ wellNamed (.dir loopedEntries.reverse) = true ∧
      SamePlaces (.dir loopedEntries) (.dir loopedEntries.reverse) ∧
      Tree.find (.dir loopedEntries) "../top" ["a"] = .ok (.dir loopedEntries) ∧
      walkFiles (.dir loopedEntries) "../top" ["a"] = .ok ["../top/a/z.cs", "../top/a.cs"] ∧
      walkFiles (.dir loopedEntries.reverse) "../top" ["a"] =
        .ok ["../top/a/z.cs", "../top/a.cs"] ∧
      (∃ listing : List (List String),
        listing.map (listedPath "../top") = ["../top/a/z.cs", "../top/a.cs"] ∧
        listing.Pairwise fun names names' => names.map nameBytes < names'.map nameBytes) ∧
      ∃ answer log,
        (linkTree "../top" .default).run (Tree.fileSystem ["a"]) (.dir loopedEntries) =
          ⟨.ok answer, .dir loopedEntries, log⟩ ∧
        (linkTree "../top" .default).run (Tree.fileSystem ["a"]) (.dir loopedEntries.reverse) =
          ⟨.ok answer, .dir loopedEntries.reverse, log⟩ := by
  have hnamed : wellNamed (.dir loopedEntries) = true := by decide +kernel
  have hnamed' : wellNamed (.dir loopedEntries.reverse) = true := by decide +kernel
  have hsame : SamePlaces (.dir loopedEntries) (.dir loopedEntries.reverse) :=
    samePlaces_of_perm (wellNamed_dir_iff.mp hnamed).1 (List.reverse_perm loopedEntries)
  have hfind : Tree.find (.dir loopedEntries) "../top" ["a"] = .ok (.dir loopedEntries) := rfl
  have hwalk : walkFiles (.dir loopedEntries) "../top" ["a"] =
      .ok ["../top/a/z.cs", "../top/a.cs"] := by
    have hfiles : files (.dir loopedEntries) = [["a", "z.cs"], ["a.cs"]] := by cbv
    rw [walkFiles_of_find hfind, hfiles]
    decide +kernel
  obtain ⟨hlisting, halike⟩ := walkFiles_canonical hnamed ["a"] "../top"
  obtain ⟨listing, hpaths, -, -, -, hascending⟩ := hlisting loopedEntries hfind
  obtain ⟨hwalk', hlink⟩ := halike _ hnamed' hsame
  rw [hwalk, Except.ok.injEq] at hpaths
  exact ⟨hnamed, hnamed', hsame, hfind, hwalk, hwalk'.trans hwalk,
    ⟨listing, hpaths.symm, hascending⟩, hlink .default⟩

end ServiceLinker.Proofs
