import ServiceLinker.Proofs.BundleWriting
import ServiceLinker.Proofs.ScriptRequests

/-!
# How bundle files are named

A run names its bundles one after another, each beside the names of the earlier ones, and then tests
and writes the files that have these names. The names depend on the bundles only. The base of a
numbered name is not always what stands before the ending of the name with the stem: the ending is
dropped from it as often as it stands there.
-/

namespace ServiceLinker.Proofs

open ServiceBundle (sanitize ending baseName writeBeside writeAll)

/-! ### The names that are tried -/

/-- The name of a bundle file beside earlier ones: the qualified name `q`, if it is taken also the
stem `s` of the descriptor, and if that is taken too a base with the least number from two on. -/
inductive NamedBeside (earlier : List String) (q s base : String) : String → Prop
  | qualified (hfree : q ++ ".bundle.yaml" ∉ earlier) :
      NamedBeside earlier q s base (q ++ ".bundle.yaml")
  | described (hq : q ++ ".bundle.yaml" ∈ earlier)
      (hfree : q ++ "." ++ s ++ ".bundle.yaml" ∉ earlier) :
      NamedBeside earlier q s base (q ++ "." ++ s ++ ".bundle.yaml")
  | numbered (n : Nat) (hq : q ++ ".bundle.yaml" ∈ earlier)
      (hs : q ++ "." ++ s ++ ".bundle.yaml" ∈ earlier) (hn : 2 ≤ n)
      (hfree : base ++ "." ++ toString n ++ ".bundle.yaml" ∉ earlier)
      (hleast : ∀ m, 2 ≤ m → m < n → base ++ "." ++ toString m ++ ".bundle.yaml" ∈ earlier) :
      NamedBeside earlier q s base (base ++ "." ++ toString n ++ ".bundle.yaml")

/-- The text is the base and then the ending some times, and the base does not end so. -/
structure IsBase (base text : String) : Prop where
  endings : ∃ k, text.toList =
    base.toList ++ (List.replicate k ".bundle.yaml".toList).flatten
  bare : ¬ ".bundle.yaml".toList <:+ base.toList

lemma replicate_succ_flatten (k : Nat) (w : List Char) :
    (List.replicate (k + 1) w).flatten = (List.replicate k w).flatten ++ w := by
  rw [List.replicate_succ', List.flatten_append, List.flatten_singleton]

lemma isBase_baseName (text : String) : IsBase (baseName (text ++ ending)) text := by
  obtain ⟨⟨k, hk⟩, hbare⟩ := toList_baseName (text ++ ending)
  refine ⟨?_, hbare⟩
  cases k with
  | zero =>
    -- the whole name would be its own base, and it has the ending
    rw [List.replicate_zero, List.flatten_nil, List.append_nil] at hk
    rw [← hk, String.toList_append] at hbare
    exact absurd (List.suffix_append _ _) hbare
  | succ k =>
    rw [String.toList_append, replicate_succ_flatten, ← List.append_assoc,
      List.append_cancel_right_eq] at hk
    exact ⟨k, hk⟩

lemma IsBase.eq_of_bare {base text : String} (h : IsBase base text)
    (hbare : ¬ ".bundle.yaml".toList <:+ text.toList) : base = text := by
  obtain ⟨k, hk⟩ := h.endings
  cases k with
  | zero =>
    rw [List.replicate_zero, List.flatten_nil, List.append_nil] at hk
    exact (String.toList_inj.mp hk).symm
  | succ k =>
    rw [replicate_succ_flatten, ← List.append_assoc] at hk
    rw [hk] at hbare
    exact absurd (List.suffix_append _ _) hbare

section

variable {taken earlier : List String} (h : ∀ name, name ∈ taken ↔ name ∈ earlier)

include h

lemma namedBeside_freeName (b : ServiceBundle) :
    NamedBeside earlier (sanitize b.qualifiedName) (sanitize (Path.stem b.descriptor.path))
      (baseName b.descriptorFileName) (b.freeName taken) := by
  have hfree := freeName_notMem taken b
  rcases freeName_cases taken b with ⟨hq, heq⟩ | ⟨hq, i, heq, hpassed⟩
  · rw [heq]
    exact .qualified fun hmem => hq ((h _).mpr hmem)
  · rw [heq, h] at hfree
    rw [heq]
    rw [h] at hq
    cases i with
    | zero => exact .described hq hfree
    | succ k =>
      refine .numbered (k + 2) hq ((h _).mp (hpassed 0 k.succ_pos)) (Nat.le_add_left 2 k) hfree ?_
      intro m hm hlt
      obtain ⟨j, rfl⟩ := Nat.exists_eq_add_of_le' hm
      exact (h _).mp (hpassed (j + 1) (by omega))

lemma namedBeside_bundleNames {bs : List ServiceBundle} {i : Nat} {b : ServiceBundle}
    {name : String} (hb : bs[i]? = some b) (hname : (bundleNames taken bs)[i]? = some name) :
    NamedBeside (earlier ++ (bundleNames taken bs).take i) (sanitize b.qualifiedName)
      (sanitize (Path.stem b.descriptor.path)) (baseName b.descriptorFileName) name := by
  induction bs generalizing taken earlier i with
  | nil => cases hb
  | cons first bs ih =>
    rw [bundleNames] at hname ⊢
    cases i with
    | zero =>
      cases hb
      cases hname
      rw [List.take_zero, List.append_nil]
      exact namedBeside_freeName h b
    | succ i =>
      have hnext : ∀ name, name ∈ first.freeName taken :: taken ↔
          name ∈ earlier ++ [first.freeName taken] := by
        intro name
        rw [List.mem_cons, List.mem_append, List.mem_singleton, h name, or_comm]
      have hrest := ih hnext hb hname
      rwa [List.append_assoc] at hrest

end

/-! ### The files of a run -/

/-- The requests that test and write the files of named bundles. -/
def fileRequests (directory : String) (named : List (String × ServiceBundle)) : List Request :=
  named.flatMap fun x =>
    [.exists (Path.join directory x.1), .write (Path.join directory x.1) x.2.toText]

lemma follows_writeTo (b : ServiceBundle) (path : String) (rest : List Request) :
    Follows (fun left _ => left = rest) (.exists path :: .write path b.toText :: rest)
      (b.writeTo path) := by
  have hwrite : Follows (fun left _ => left = rest) (.write path b.toText :: rest)
      (Script.write path b.toText) := follows_request _ rest
  unfold ServiceBundle.writeTo Script.exists?
  refine follows_bind (follows_request _ _) ?_
  rintro left found rfl
  dsimp only
  split_ifs
  · refine follows_bind (follows_log _ _ _) ?_
    rintro left - rfl
    refine follows_bind hwrite ?_
    rintro left answer rfl
    cases answer <;> rfl
  · refine follows_bind hwrite ?_
    rintro left answer rfl
    cases answer <;> rfl

lemma follows_writeBeside (directory : String) (taken : List String) (bs : List ServiceBundle) :
    Follows (fun left result => ∀ paths, result = .ok paths →
        left = [] ∧ paths = (bundleNames taken bs).map (Path.join directory))
      (fileRequests directory ((bundleNames taken bs).zip bs))
      (writeBeside directory taken bs) := by
  induction bs generalizing taken with
  | nil =>
    intro paths hpaths
    cases hpaths
    exact ⟨rfl, rfl⟩
  | cons b bs ih =>
    unfold ServiceBundle.writeBeside
    refine follows_bind (follows_ofLogged _ _) ?_
    rintro left name ⟨rfl, rfl⟩
    rw [value_chooseName]
    refine follows_bind (follows_writeTo b _ _) ?_
    rintro left (e | ⟨⟩) rfl
    · intro paths hpaths
      cases hpaths
    · refine follows_bind (ih _) ?_
      rintro left (e | paths) hend
      · intro paths hpaths
        cases hpaths
      · obtain ⟨rfl, rfl⟩ := hend paths rfl
        intro paths hpaths
        cases hpaths
        exact ⟨rfl, rfl⟩

/-- Every bundle of a run is named after its qualified name, the stem of its descriptor and a base
of both, beside the names of the bundles before it. The run then tests and writes the files of these
names in order, and returns their paths if it comes to its end. If the qualified name and the stem
together do not end like a bundle file, they are the base. -/
theorem writeAll_names (directory : String) (bs : List ServiceBundle) :
    ∃ names : List String, names.length = bs.length ∧
      (∀ i b name, bs[i]? = some b → names[i]? = some name →
        let q := sanitize b.qualifiedName
        let s := sanitize (Path.stem b.descriptor.path)
        ∃ base, IsBase base (q ++ "." ++ s) ∧ NamedBeside (names.take i) q s base name ∧
          (¬ ".bundle.yaml".toList <:+ (q ++ "." ++ s).toList → base = q ++ "." ++ s)) ∧
      ∀ {σ : Type} (fs : FileSystem σ) (state : σ),
        ∃ left, (callsOf fs (writeAll directory bs) state).map (·.request) ++ left =
            fileRequests directory (names.zip bs) ∧
          ∀ paths, ((writeAll directory bs).run fs state).result = .ok (.ok paths) →
            left = [] ∧ paths = names.map (Path.join directory) := by
  refine ⟨bundleNames [] bs, length_bundleNames [] bs, ?_, ?_⟩
  · intro i b name hb hname q s
    have hbase : IsBase (baseName b.descriptorFileName) (q ++ "." ++ s) := isBase_baseName _
    have hnamed := namedBeside_bundleNames (fun _ => Iff.rfl) hb hname
    rw [List.nil_append] at hnamed
    exact ⟨_, hbase, hnamed, hbase.eq_of_bare⟩
  · intro σ fs state
    obtain ⟨left, hcalls, hend⟩ :=
      calls_of_follows fs (follows_writeBeside directory [] bs) state
    exact ⟨left, hcalls, fun paths hpaths => hend _ hpaths paths rfl⟩

lemma prefix_numbered (base number : String) :
    base.toList <+: (base ++ "." ++ number ++ ".bundle.yaml").toList := by
  rw [String.toList_append, String.toList_append, String.toList_append, List.append_assoc,
    List.append_assoc]
  exact List.prefix_append _ _

/-- Three bundles of one service, whose descriptor has a stem that ends like a bundle file. -/
def endingStem : List ServiceBundle :=
  List.replicate 3 (plainBundle "Shop.Orders" "x/Orders.bundle.yaml.svc")

/-- The third name lacks a part of the stem: it is not built on the qualified name and the stem. -/
theorem writeAll_endingStem_loses_stem :
    ((writeAll "o" endingStem).run FileTable.fileSystem ⟨.ok [], [], []⟩).result =
        .ok (.ok (["Shop.Orders.bundle.yaml", "Shop.Orders.Orders.bundle.yaml.bundle.yaml",
          "Shop.Orders.Orders.2.bundle.yaml"].map (Path.join "o"))) ∧
      sanitize (Path.stem "x/Orders.bundle.yaml.svc") = "Orders.bundle.yaml" ∧
      ¬ NamedBeside ["Shop.Orders.bundle.yaml", "Shop.Orders.Orders.bundle.yaml.bundle.yaml"]
        "Shop.Orders" "Orders.bundle.yaml" ("Shop.Orders" ++ "." ++ "Orders.bundle.yaml")
        "Shop.Orders.Orders.2.bundle.yaml" := by
  refine ⟨by decide +kernel, by decide +kernel, ?_⟩
  intro h
  generalize hname : "Shop.Orders.Orders.2.bundle.yaml" = name at h
  cases h with
  | qualified hfree => exact absurd hname (by decide)
  | described hq hfree => exact absurd hname (by decide)
  | numbered n hq hs hn hfree hleast =>
    -- the number would stand behind the whole stem
    have hprefix := prefix_numbered ("Shop.Orders" ++ "." ++ "Orders.bundle.yaml") (toString n)
    rw [← hname] at hprefix
    exact absurd hprefix (by decide)

end ServiceLinker.Proofs
