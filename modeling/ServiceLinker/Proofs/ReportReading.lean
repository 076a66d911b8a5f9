import ServiceLinker.Json.Format
import ServiceLinker.Proofs.DocumentReading
import ServiceLinker.Proofs.JsonReading
import ServiceLinker.Report.Format

/-!
# Reading reports from JSON

The JSON text of a report holds the whole report. The tree of the text shows the value that was
written, so that reading the records of the report from it is reading shown fields one by one.
-/

namespace ServiceLinker.Proofs

open Json (Syntax)

/-! ### Trees as documents -/

lemma forall₂_treesOf (vs : List Json) :
    List.Forall₂ (fun v x => x = treeOf v) vs (treesOf vs) := by
  induction vs with
  | nil => exact .nil
  | cons v vs ih => exact .cons rfl ih

lemma fields?_fieldTreesOf (fs : List (String × Json)) :
    ∃ gs, ((fieldTreesOf fs).mapM fun f => f.1.map (·, f.2)) = some gs ∧
      List.Forall₂ (fun f g => f.1 = g.1 ∧ g.2 = treeOf f.2) fs gs := by
  induction fs with
  | nil => exact ⟨[], rfl, .nil⟩
  | cons f fs ih =>
    obtain ⟨gs, hgs, hall⟩ := ih
    refine ⟨(f.1, treeOf f.2) :: gs, ?_, .cons ⟨rfl, rfl⟩ hall⟩
    rw [fieldTreesOf, List.mapM_cons, hgs]
    rfl

lemma faithful_json : Faithful Json.format fun v x => x = treeOf v where
  text h := by
    rw [h]
    rfl
  list {vs m} h := by
    rw [h]
    exact ⟨treesOf vs, rfl, forall₂_treesOf vs⟩
  object {fs m} h names := by
    rw [h]
    exact fields?_fieldTreesOf fs

section

variable {α : Type} {gs : Fields Syntax} {name : String} {read : Syntax → Option α} {m : Syntax}

lemma required_of_tree {v : Json} {a : α} (h : ∃ m, gs.lookup name = some m ∧ m = treeOf v)
    (hread : read (treeOf v) = some a) : gs.required name read = some a := by
  obtain ⟨m, hm, rfl⟩ := h
  exact required_of_lookup hm hread

lemma required_text {s : String} (h : ∃ m, gs.lookup name = some m ∧ m = treeOf (.text s)) :
    gs.required name Json.format.text? = some s := required_of_tree h rfl

/-- An optional field is written as its value or as null. -/
lemma optional_of_tree {f : α → Json} {o : Option α}
    (h : ∃ m, gs.lookup name = some m ∧ m = treeOf (.ofOption f o))
    (hread : ∀ a, read (treeOf (f a)) = some a)
    (hpresent : ∀ a, (treeOf (f a)).isAbsent = false) :
    gs.optional Json.format name read = some o := by
  obtain ⟨m, hm, rfl⟩ := h
  rw [Fields.optional, hm]
  cases o with
  | none => rfl
  | some a =>
    change (if (treeOf (f a)).isAbsent then some none else (read (treeOf (f a))).map some) = _
    rw [hpresent a, if_neg Bool.false_ne_true, hread a]
    rfl

lemma optional_text {o : Option String}
    (h : ∃ m, gs.lookup name = some m ∧ m = treeOf (.ofOption .text o)) :
    gs.optional Json.format name Json.format.text? = some o :=
  optional_of_tree h (fun _ => rfl) fun _ => rfl

end

/-! ### Records -/

lemma diagnostic_read?_treeOf (d : Diagnostic) :
    Diagnostic.read? Json.format (treeOf d.toJson) = some d := by
  obtain ⟨gs, hgs, hlook⟩ := record?_of_shown faithful_json (m := treeOf d.toJson)
    Diagnostic.fieldNames (by change Diagnostic.fieldNames.Nodup; decide) rfl
  have hkind : ErrorKind.ofTag? d.kind.tag = some d.kind := ErrorKind.ofTag?_tag d.kind
  rw [Diagnostic.read?, hgs]
  simp only [Option.bind_eq_bind, Option.bind_some]
  rw [required_of_tree (hlook "kind" (.text d.kind.tag) rfl) hkind, Option.bind_some,
    required_text (hlook "path" (.text d.path) rfl), Option.bind_some,
    required_text (hlook "message" (.text d.message) rfl)]
  rfl

lemma list?_diagnostics (ds : List Diagnostic) :
    Json.format.list? (Diagnostic.read? Json.format)
      (treeOf (.list (ds.map Diagnostic.toJson))) = some ds := by
  refine list?_of_shown faithful_json (fun d _ m hm => ?_) rfl
  rw [hm]
  exact diagnostic_read?_treeOf d

lemma linkedService_read?_treeOf (r : LinkedService) :
    LinkedService.read? Json.format (treeOf r.toJson) = some r := by
  obtain ⟨gs, hgs, hlook⟩ := record?_of_shown faithful_json (m := treeOf r.toJson)
    LinkedService.fieldNames (by change LinkedService.fieldNames.Nodup; decide) rfl
  rw [LinkedService.read?, hgs]
  simp only [Option.bind_eq_bind, Option.bind_some]
  rw [required_text (hlook "service_name" (.text r.serviceName) rfl), Option.bind_some,
    required_text (hlook "qualified_name" (.text r.qualifiedName) rfl), Option.bind_some,
    required_text (hlook "descriptor_path" (.text r.descriptorPath) rfl), Option.bind_some,
    optional_text (hlook "implementation_path" (.ofOption .text r.implementationPath) rfl),
    Option.bind_some,
    optional_text (hlook "interface_path" (.ofOption .text r.interfacePath) rfl), Option.bind_some,
    optional_of_tree (hlook "interface_source"
      (.ofOption (fun s => .text s.tag) r.interfaceSource) rfl)
      InterfaceSource.ofTag?_tag (fun _ => rfl), Option.bind_some,
    required_of_tree (hlook "diagnostics" (.list (r.diagnostics.map Diagnostic.toJson)) rfl)
      (list?_diagnostics r.diagnostics)]
  rfl

lemma linkReport_read?_treeOf (r : LinkReport) :
    LinkReport.read? Json.format (treeOf r.toJson) = some r := by
  obtain ⟨gs, hgs, hlook⟩ := record?_of_shown faithful_json (m := treeOf r.toJson)
    LinkReport.fieldNames (by change LinkReport.fieldNames.Nodup; decide) rfl
  have hrecords : Json.format.list? (LinkedService.read? Json.format)
      (treeOf (.list (r.records.map LinkedService.toJson))) = some r.records := by
    refine list?_of_shown faithful_json (fun s _ m hm => ?_) rfl
    rw [hm]
    exact linkedService_read?_treeOf s
  rw [LinkReport.read?, hgs]
  simp only [Option.bind_eq_bind, Option.bind_some]
  rw [required_text (hlook "root" (.text r.root) rfl), Option.bind_some,
    required_of_tree (hlook "records" (.list (r.records.map LinkedService.toJson)) rfl) hrecords,
    Option.bind_some,
    required_of_tree (hlook "diagnostics" (.list (r.diagnostics.map Diagnostic.toJson)) rfl)
      (list?_diagnostics r.diagnostics)]
  rfl

/-! ### Reports hold no numbers -/

lemma numberFree_ofOption {α : Type} {f : α → Json} (h : ∀ a, NumberFree (f a)) (o : Option α) :
    NumberFree (.ofOption f o) := by
  cases o with
  | none => exact .null
  | some a => exact h a

lemma numberFree_map {α : Type} {f : α → Json} (h : ∀ a, NumberFree (f a)) (as : List α) :
    NumberFree (.list (as.map f)) := by
  refine .list fun v hv => ?_
  obtain ⟨a, -, rfl⟩ := List.mem_map.mp hv
  exact h a

lemma numberFree_diagnostic (d : Diagnostic) : NumberFree d.toJson := by
  refine .object fun f hf => ?_
  simp only [List.mem_cons, List.not_mem_nil, or_false] at hf
  rcases hf with rfl | rfl | rfl <;> exact .text _

lemma numberFree_linkedService (r : LinkedService) : NumberFree r.toJson := by
  refine .object fun f hf => ?_
  simp only [List.mem_cons, List.not_mem_nil, or_false] at hf
  rcases hf with rfl | rfl | rfl | rfl | rfl | rfl | rfl
  · exact .text _
  · exact .text _
  · exact .text _
  · exact numberFree_ofOption .text _
  · exact numberFree_ofOption .text _
  · exact numberFree_ofOption (fun s : InterfaceSource => .text s.tag) _
  · exact numberFree_map numberFree_diagnostic _

lemma numberFree_linkReport (r : LinkReport) : NumberFree r.toJson := by
  refine .object fun f hf => ?_
  simp only [List.mem_cons, List.not_mem_nil, or_false] at hf
  rcases hf with rfl | rfl | rfl
  · exact .text _
  · exact numberFree_map numberFree_linkedService _
  · exact numberFree_map numberFree_diagnostic _

/-! ### Texts of reports -/

/-- The report that a JSON text holds. -/
def reportOfJson? (text : String) : Option LinkReport :=
  (Syntax.ofText? text).bind (LinkReport.read? Json.format)

lemma reportOfJson?_render (r : LinkReport) : reportOfJson? (r.render .json) = some r := by
  have htree : Syntax.ofText? (r.render .json) = some (treeOf r.toJson) :=
    ofText?_printAt isBlankLayout_pretty (numberFree_linkReport r)
  rw [reportOfJson?, htree, Option.bind_some, linkReport_read?_treeOf]

/-- The JSON text of a report loses nothing: it is read as that report, and no other report has the
same text. -/
theorem render_json_lossless :
    (∀ r : LinkReport, reportOfJson? (r.render .json) = some r) ∧
      Function.Injective fun r : LinkReport => r.render .json := by
  refine ⟨reportOfJson?_render, ?_⟩
  intro r r' heq
  have hread := congrArg reportOfJson? heq
  rw [reportOfJson?_render, reportOfJson?_render, Option.some.injEq] at hread
  exact hread

end ServiceLinker.Proofs
