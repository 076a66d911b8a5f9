import ServiceLinker.Linkage.SourceIndex
import ServiceLinker.Proofs.PathComponents
import ServiceLinker.Proofs.ScriptRuns

/-!
# Roles of files

The extension of a file name stands behind its last point, and valid settings name two extensions
that no file can have at once. So the role of a file does not depend on which of them is tested
first, and every file name that is made of a stem, a point and one of the extensions has that
extension and that stem.
-/

namespace ServiceLinker.Proofs

open ServiceLinker.Path (fileName?)
open SourceIndex (Entry candidates load build)

/-! ### Extensions -/

lemma toLower_eq_point_iff {c : Char} : c.toLower = '.' ↔ c = '.' := by
  constructor
  · intro h
    have halpha : c.isAlpha = false := by
      rw [← Char.isAlpha_toLower_eq_isAlpha, h]
      decide
    have hupper : ¬c.isUpper = true := by
      rw [Char.isAlpha, Bool.or_eq_false_iff] at halpha
      rw [halpha.1]
      exact Bool.false_ne_true
    rwa [Char.toLower_eq_of_not_isUpper hupper] at h
  · rintro rfl
    decide

lemma point_notMem_of_equalIgnoringCase {e e' : String} (h : '.' ∉ e.toList)
    (heq : Text.equalIgnoringCase e' e = true) : '.' ∉ e'.toList := by
  intro hmem
  have hlower : '.' ∈ e.toList.map Char.toLower := by
    rw [← Text.equalIgnoringCase_iff.mp heq]
    exact List.mem_map.mpr ⟨'.', hmem, by decide⟩
  obtain ⟨c, hc, hpoint⟩ := List.mem_map.mp hlower
  exact h (toLower_eq_point_iff.mp hpoint ▸ hc)

lemma length_of_equalIgnoringCase {e e' : String} (h : Text.equalIgnoringCase e' e = true) :
    e'.toList.length = e.toList.length := by
  have hlength := congrArg List.length (Text.equalIgnoringCase_iff.mp h)
  rwa [List.length_map, List.length_map] at hlength

/-- The last component of the path is the stem, a point and the extension, up to the case of ASCII
letters in the extension. -/
def IsNamed (path stem extension : String) : Prop :=
  stem ≠ "" ∧ ∃ e, Text.equalIgnoringCase e extension = true ∧
    LastComponent (stem ++ "." ++ e).toList path.toList

/-- A bare extension is the extension of the files that are named with it, and of no others; what
stands before it is the stem. -/
theorem isNamed_iff {e : String} (he : Config.isBareExtension e = true) {path stem : String} :
    IsNamed path stem e ↔ Path.hasExtension path e = true ∧ Path.stem path = stem := by
  simp only [Config.isBareExtension, Bool.and_eq_true, Bool.not_eq_true', List.contains_eq_mem,
    decide_eq_false_iff_not, String.isEmpty_eq_false_iff] at he
  obtain ⟨⟨hempty, hpoint⟩, -⟩ := he
  rw [Path.hasExtension, Option.any_eq_true]
  constructor
  · rintro ⟨hne, e', heq, hlast⟩
    have hpoint' := point_notMem_of_equalIgnoringCase hpoint heq
    have hstem : stem.toList ≠ [] := fun h => hne (String.toList_eq_nil_iff.mp h)
    have hname : IsFileName (stem.toList ++ '.' :: e'.toList) := by
      rw [toList_pointed] at hlast
      refine isFileName_of_length hlast.1 ?_
      have hlength := List.length_pos_iff.mpr hstem
      have hlength' : 0 < e'.toList.length := by
        rw [length_of_equalIgnoringCase heq, List.length_pos_iff]
        exact fun h => hempty (String.toList_eq_nil_iff.mp h)
      rw [List.length_append, List.length_cons]
      omega
    have hfile : fileName? path = some (stem.toList ++ '.' :: e'.toList) := by
      rw [toList_pointed] at hlast
      exact fileName?_eq_some_iff.mpr ⟨hname, hlast⟩
    refine ⟨⟨e', extension?_eq_some_iff.mpr ⟨_, hstem, hpoint', hfile⟩, heq⟩, ?_⟩
    rw [stem_of_fileName? hfile hstem hpoint', String.ofList_toList]
  · rintro ⟨⟨e', he', heq⟩, rfl⟩
    obtain ⟨stem, hne, hpoint', hfile⟩ := extension?_eq_some_iff.mp he'
    rw [stem_of_fileName? hfile hne hpoint']
    refine ⟨fun h => hne ?_, e', heq, ?_⟩
    · rw [← String.toList_ofList (l := stem), h]
      rfl
    · rw [toList_pointed, String.toList_ofList]
      exact (fileName?_eq_some_iff.mp hfile).2

/-! ### Roles -/

/-- The extension of the files in a role. -/
def extensionOf (c : Config) : Role → String
  | .declaration => c.declarationExtension
  | .descriptor => c.descriptorExtension

/-- No file has both extensions of valid settings. -/
lemma not_hasExtension_both {c : Config} (hc : c.Valid) (path : String) :
    ¬(Path.hasExtension path c.declarationExtension = true ∧
      Path.hasExtension path c.descriptorExtension = true) := by
  rintro ⟨hdeclaration, hdescriptor⟩
  unfold Path.hasExtension at hdeclaration hdescriptor
  rw [Option.any_eq_true] at hdeclaration hdescriptor
  obtain ⟨e, he, hdeclaration⟩ := hdeclaration
  obtain ⟨e', he', hdescriptor⟩ := hdescriptor
  rw [he, Option.some.injEq] at he'
  subst he'
  rw [Text.equalIgnoringCase_iff] at hdeclaration hdescriptor
  have hsame := Text.equalIgnoringCase_iff.mpr (hdescriptor.symm.trans hdeclaration)
  rw [hc.2.2.1] at hsame
  cases hsame

/-- Under valid settings the role of a path is the one whose extension it has. -/
lemma role?_eq_some_iff {c : Config} (hc : c.Valid) {path : String} {role : Role} :
    c.role? path = some role ↔ Path.hasExtension path (extensionOf c role) = true := by
  have hboth := not_hasExtension_both hc path
  unfold Config.role? extensionOf
  cases role <;> split_ifs <;> simp_all

/-! ### The other order of the tests -/

/-- The other role. -/
def swapRole : Role → Role
  | .declaration => .descriptor
  | .descriptor => .declaration

/-- The settings with their extensions exchanged, under which the other one is tested first. -/
def swapExtensions (c : Config) : Config :=
  { c with
    descriptorExtension := c.declarationExtension
    declarationExtension := c.descriptorExtension }

/-- The entry in the other role. -/
def swapEntry : Entry → Entry
  | .file role file => .file (swapRole role) file
  | .unreadable d => .unreadable d

/-- The index with its lists exchanged. -/
def swapIndex (index : SourceIndex) : SourceIndex := ⟨index.descriptors, index.declarations⟩

lemma role?_swapExtensions {c : Config} (hc : c.Valid) (path : String) :
    (swapExtensions c).role? path = (c.role? path).map swapRole := by
  unfold Config.role? swapExtensions
  dsimp only
  split_ifs with hdescriptor hdeclaration
  · exact absurd ⟨hdeclaration, hdescriptor⟩ (not_hasExtension_both hc path)
  all_goals rfl

lemma candidates_swapExtensions {c : Config} (hc : c.Valid) (seen paths : List String) :
    candidates (swapExtensions c) seen paths =
      (candidates c seen paths).map fun x => (swapRole x.1, x.2) := by
  induction paths generalizing seen with
  | nil => rfl
  | cons p paths ih =>
    unfold candidates
    rw [role?_swapExtensions hc]
    cases c.role? p with
    | none => exact ih seen
    | some role =>
      dsimp only [Option.map_some]
      split_ifs
      · exact ih seen
      · rw [List.map_cons, ih]

/-- A file is read alike in either role. -/
lemma load_swapRole (x : Role × String) : load (swapRole x.1, x.2) = swapEntry <$> load x := by
  unfold SourceIndex.load
  rw [map_bind]
  congr 1
  funext answer
  cases answer <;> rfl

lemma ofEntries_swapEntry (entries : List Entry) :
    SourceIndex.ofEntries (entries.map swapEntry) =
      (swapIndex (SourceIndex.ofEntries entries).1, (SourceIndex.ofEntries entries).2) := by
  have hfiles : ∀ role, (entries.map swapEntry).filterMap (Entry.fileOf? (swapRole role)) =
      entries.filterMap (Entry.fileOf? role) := by
    intro role
    rw [List.filterMap_map]
    congr 1
    funext entry
    cases entry with
    | file r file => cases r <;> cases role <;> rfl
    | unreadable d => rfl
  have hdiagnostics : (entries.map swapEntry).filterMap Entry.diagnostic? =
      entries.filterMap Entry.diagnostic? := by
    rw [List.filterMap_map]
    congr 1
    funext entry
    cases entry <;> rfl
  have hdeclarations : (entries.map swapEntry).filterMap (Entry.fileOf? .declaration) =
      entries.filterMap (Entry.fileOf? .descriptor) := hfiles .descriptor
  have hdescriptors : (entries.map swapEntry).filterMap (Entry.fileOf? .descriptor) =
      entries.filterMap (Entry.fileOf? .declaration) := hfiles .declaration
  rw [SourceIndex.ofEntries, hdeclarations, hdescriptors, hdiagnostics]
  rfl

/-- A build under the exchanged extensions goes as before and gives the exchanged index. -/
lemma run_build_swapExtensions {c : Config} (hc : c.Valid) {σ : Type} (fs : FileSystem σ)
    (root : String) (s : σ) :
    let before := (build root c).run fs s
    let after := (build root (swapExtensions c)).run fs s
    after.state = before.state ∧
      after.result = before.result.map (Except.map fun built => (swapIndex built.1, built.2)) := by
  unfold SourceIndex.build
  dsimp only
  rw [Script.run_bind, Script.run_bind]
  rcases (Script.walkFiles root).run fs s with ⟨e | ⟨reason | paths⟩, t, log⟩
  · exact ⟨rfl, rfl⟩
  · exact ⟨rfl, rfl⟩
  · dsimp only
    rw [candidates_swapExtensions hc, traverse_map load_swapRole, Script.run_bind,
      Script.run_bind, run_map]
    rcases (Script.traverse load (candidates c [] paths)).run fs t with ⟨e | entries, t', log'⟩
    · exact ⟨rfl, rfl⟩
    · dsimp only [Except.map]
      rw [ofEntries_swapEntry, run_bind_ok (run_log ..), run_bind_ok (run_log ..)]
      exact ⟨rfl, rfl⟩

/-- Valid settings tell files apart. No path has both extensions, so that a build that tests them
in the other order gives the same two lists of files; and the paths that have one of them are those
whose last component is a stem, a point and the extension, which stem the file then has. -/
theorem validate_separates_roles {c : Config} (h : c.validate = .ok ()) :
    (∀ path, ¬(Path.hasExtension path c.declarationExtension = true ∧
      Path.hasExtension path c.descriptorExtension = true)) ∧
    (∀ {σ : Type} (fs : FileSystem σ) (root : String) (s : σ),
      let before := (build root c).run fs s
      let after := (build root (swapExtensions c)).run fs s
      after.state = before.state ∧
        after.result =
          before.result.map (Except.map fun built => (swapIndex built.1, built.2))) ∧
    ∀ role path,
      (c.role? path = some role ↔ Path.hasExtension path (extensionOf c role) = true) ∧
      ∀ stem, IsNamed path stem (extensionOf c role) ↔
        Path.hasExtension path (extensionOf c role) = true ∧
          ∀ content, (SourceFile.ofContent path content).stem = stem := by
  have hc : c.Valid := (Config.validate_eq_ok_iff c).mp h
  have hbare : ∀ role, Config.isBareExtension (extensionOf c role) = true := by
    intro role
    cases role with
    | declaration => exact hc.2.1
    | descriptor => exact hc.1
  refine ⟨not_hasExtension_both hc, run_build_swapExtensions hc, fun role path => ?_⟩
  refine ⟨role?_eq_some_iff hc, fun stem => ?_⟩
  rw [isNamed_iff (hbare role)]
  exact and_congr_right fun _ => (forall_const String).symm

/-- Settings in which an extension has letters beyond ASCII. -/
def accentedConfig : Config := ⟨"svc", "Äs", "[ServiceContract]", .firstMatch⟩

/-- Points at both ends of the stem, another case of the ASCII letter, and a path that goes on
behind its last component. -/
theorem validate_separates_roles_accentedConfig :
    accentedConfig.validate = .ok () ∧
      IsNamed "../x.svc/..Orders.V2..ÄS//./" "..Orders.V2." "Äs" ∧
      Path.hasExtension "../x.svc/..Orders.V2..ÄS//./" "Äs" = true ∧
      (∀ content, (SourceFile.ofContent "../x.svc/..Orders.V2..ÄS//./" content).stem =
        "..Orders.V2.") ∧
      accentedConfig.role? "../x.svc/..Orders.V2..ÄS//./" = some .declaration ∧
      ¬(Path.hasExtension "a.äs" "Äs" = true ∧ Path.hasExtension "a.äs" "svc" = true) := by
  have hvalid : accentedConfig.validate = .ok () := by decide +kernel
  obtain ⟨hboth, -, hroles⟩ := validate_separates_roles hvalid
  obtain ⟨hrole, hnamed⟩ := hroles .declaration "../x.svc/..Orders.V2..ÄS//./"
  have hpath : IsNamed "../x.svc/..Orders.V2..ÄS//./" "..Orders.V2." "Äs" := by
    refine ⟨by decide, "ÄS", by decide, by decide, ["..".toList, "x.svc".toList],
      [[], ['.'], []], by decide, by decide⟩
  obtain ⟨hextension, hstem⟩ := (hnamed "..Orders.V2.").mp hpath
  exact ⟨hvalid, hpath, hextension, hstem, hrole.mpr hextension, hboth "a.äs"⟩

end ServiceLinker.Proofs
