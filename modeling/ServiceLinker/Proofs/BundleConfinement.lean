import ServiceLinker.Proofs.BundleNaming

/-!
# Bundles stay below their directory

The qualified name of a service and the path of its descriptor come from the linked tree and may be
any text. Whatever they are, writing bundles asks for nothing but files that lie below the output
directory under a single name.
-/

namespace ServiceLinker.Proofs

open ServiceBundle (isNameChar ending writeAll)

/-- The name is one component of a path, has the ending of bundle files, and is neither cut off nor
led elsewhere by the system. -/
structure IsBundleName (name : String) : Prop where
  slash : '/' ∉ name.toList
  nul : '\x00' ∉ name.toList
  ne_here : name ≠ "."
  ne_up : name ≠ ".."
  component : Path.components name = [.name name.toList]
  ending : ".bundle.yaml".toList <:+ name.toList

/-- The path leads to the name below the directory, and the directory is what lies above it. -/
structure LiesBelow (directory name path : String) : Prop where
  path_eq : path = Path.join directory name
  components : Path.components path = Path.components directory ++ [.name name.toList]
  parent : ∃ parent, Path.parent? path = some parent ∧
    Path.components parent = Path.components directory

/-- The request tests or writes a bundle file below the directory. -/
def Confined (directory : String) : Request → Prop
  | .exists path => ∃ name, IsBundleName name ∧ LiesBelow directory name path
  | .write path _ => ∃ name, IsBundleName name ∧ LiesBelow directory name path
  | _ => False

lemma isBundleName_freeName (taken : List String) (b : ServiceBundle) :
    IsBundleName (b.freeName taken) := by
  have hfile := isFileName_freeName taken b
  have hcomponent : Path.components (b.freeName taken) = [.name (b.freeName taken).toList] :=
    componentsOf_of_isFileName hfile
  obtain ⟨front, hfront⟩ := exists_toList_freeName taken b
  refine ⟨hfile.1, ?_, ?_, ?_, hcomponent, ⟨front, hfront.symm⟩⟩
  · exact notMem_of_isNameChar_eq_false (fun _ => isNameChar_of_mem_freeName) (by decide +kernel)
  · intro heq
    rw [heq] at hcomponent
    exact absurd hcomponent (by decide)
  · intro heq
    rw [heq] at hcomponent
    exact absurd hcomponent (by decide)

lemma liesBelow_join (directory : String) {name : String} (h : IsFileName name.toList) :
    LiesBelow directory name (Path.join directory name) :=
  ⟨rfl, components_join directory h, parent?_join directory h⟩

/-- Whatever the bundles are and whatever it is answered, writing bundles tests and writes bundle
files directly below the output directory, and requests nothing else. -/
theorem writeAll_confined (directory : String) (bs : List ServiceBundle) :
    Asks (Confined directory) (writeAll directory bs) := by
  have hnames : ∀ name ∈ bundleNames [] bs,
      IsBundleName name ∧ LiesBelow directory name (Path.join directory name) := by
    intro name hname
    obtain ⟨earlier, b, -, rfl⟩ := exists_of_mem_bundleNames hname
    exact ⟨isBundleName_freeName earlier b, liesBelow_join directory (isFileName_freeName earlier b)⟩
  refine asks_mono ?_ (asks_of_follows (follows_writeBeside directory [] bs))
  intro r hr
  obtain ⟨⟨name, b⟩, hmem, hr⟩ := List.mem_flatMap.mp hr
  have hname := hnames name (List.of_mem_zip hmem).1
  rcases List.mem_pair.mp hr with rfl | rfl
  · exact ⟨name, hname⟩
  · exact ⟨name, hname⟩

example : bundleNames [] (List.replicate 3 (plainBundle "../x" "..")) =
    [".._x.bundle.yaml", ".._x..bundle.yaml", ".._x..2.bundle.yaml"] := by
  decide +kernel

end ServiceLinker.Proofs
