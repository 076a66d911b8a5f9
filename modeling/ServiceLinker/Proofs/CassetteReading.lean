import Mathlib
import ServiceLinker.Proofs.DocumentReading
import ServiceLinker.Proofs.ReplaySimulation
import ServiceLinker.Proofs.TimestampReading
import ServiceLinker.Cassette.File

/-!
# Reading a saved cassette

What a cassette file needs from YAML is that the written texts, integers, truth values, nulls,
lists and maps come back as such. This file derives from it that a saved recording is loaded as
the same cassette, whatever the calls were.
-/

namespace ServiceLinker.Proofs

open Yaml (Node)

/-! ### Values shown by nodes -/

/-- A scalar shows a text, an integer, a truth value or null, whoever reads it. -/
def showsLeaf (v : Json) (n : Node) : Bool :=
  (n.toJson? 0).any v.same &&
    match v with
    | .text s => n.text? == some s
    | .number (.int k) => k < 0 || n.natural? == some k.toNat
    | _ => true

mutual

/-- A node shows a value: a scalar its leaf, an untagged list its items and an untagged map its
fields, in their order. -/
def shows : Json → Node → Bool
  | .list vs, .list none ns => showsItems vs ns
  | .list _, _ => false
  | .object fs, .map none es => showsFields fs es
  | .object _, _ => false
  | v, .scalar tag style text => showsLeaf v (.scalar tag style text)
  | _, _ => false

def showsItems : List Json → List Node → Bool
  | [], [] => true
  | v :: vs, n :: ns => shows v n && showsItems vs ns
  | _, _ => false

def showsFields : List (String × Json) → List (Node × Node) → Bool
  | [], [] => true
  | f :: fs, e :: es => (e.1.text? == some f.1 && shows f.2 e.2) && showsFields fs es
  | _, _ => false

end

/-- YAML reads back the value that it wrote. -/
def ReadsBack (v : Json) : Prop := (Yaml.rootOfText? (Yaml.print v)).any (shows v) = true

instance (v : Json) : Decidable (ReadsBack v) :=
  inferInstanceAs (Decidable (_ = true))

mutual

/-- Objects list their keys in ascending order, and collections nest no deeper than `depth`. -/
def isNormal (depth : Nat) : Json → Bool
  | .list vs =>
    match depth with
    | 0 => false
    | depth + 1 => areNormal depth vs
  | .object fs =>
    match depth with
    | 0 => false
    | depth + 1 => decide ((fs.map Prod.fst).Pairwise (· < ·)) && fieldsNormal depth fs
  | _ => true

def areNormal (depth : Nat) : List Json → Bool
  | [] => true
  | v :: vs => isNormal depth v && areNormal depth vs

def fieldsNormal (depth : Nat) : List (String × Json) → Bool
  | [] => true
  | f :: fs => isNormal depth f.2 && fieldsNormal depth fs

end

lemma eq_of_same_leaf {v w : Json} (hl : ∀ vs, v ≠ .list vs) (ho : ∀ fs, v ≠ .object fs)
    (h : v.same w = true) : w = v := by
  cases v <;> cases w <;> simp_all [Json.same]

lemma toJson?_scalar (d : Nat) (tag : Option String) (style : Yaml.Style) (text : String) :
    (Node.scalar tag style text).toJson? d = (Node.scalar tag style text).toJson? 0 := rfl

lemma insertField_append {key : String} (v : Json) {fs : List (String × Json)}
    (h : ∀ f ∈ fs, f.1 < key) : Json.insertField key v fs = fs ++ [(key, v)] := by
  induction fs with
  | nil => rfl
  | cons f fs ih =>
    have hf := h f List.mem_cons_self
    rw [Json.insertField, if_neg hf.ne', if_neg hf.asymm,
      ih fun g hg => h g (List.mem_cons_of_mem _ hg)]
    rfl

lemma ofFields_of_ascending {fs : List (String × Json)}
    (h : (fs.map Prod.fst).Pairwise (· < ·)) : Json.ofFields fs = .object fs := by
  -- what was inserted so far stays in front of the rest
  have hfold : ∀ acc : List (String × Json), ((acc ++ fs).map Prod.fst).Pairwise (· < ·) →
      fs.foldl (fun acc f => Json.insertField f.1 f.2 acc) acc = acc ++ fs := by
    clear h
    induction fs with
    | nil => simp
    | cons f fs ih =>
      intro acc hacc
      have hlt : ∀ g ∈ acc, g.1 < f.1 := by
        intro g hg
        rw [List.map_append, List.pairwise_append] at hacc
        exact hacc.2.2 g.1 (List.mem_map_of_mem hg) f.1 (by simp)
      have hassoc : acc ++ [(f.1, f.2)] ++ fs = acc ++ f :: fs := by simp
      rw [List.foldl_cons, insertField_append f.2 hlt, ih _ (by rw [hassoc]; exact hacc), hassoc]
  rw [Json.ofFields, hfold [] h]
  rfl

lemma exists_list_of_shows {vs : List Json} {n : Node} (h : shows (.list vs) n = true) :
    ∃ ns, n = .list none ns ∧ showsItems vs ns = true := by
  rcases n with _ | ⟨_ | _, ns⟩ | _ | _ <;> simp only [shows, Bool.false_eq_true] at h
  exact ⟨ns, rfl, h⟩

lemma exists_map_of_shows {fs : List (String × Json)} {n : Node}
    (h : shows (.object fs) n = true) : ∃ es, n = .map none es ∧ showsFields fs es = true := by
  rcases n with _ | _ | ⟨_ | _, es⟩ | _ <;> simp only [shows, Bool.false_eq_true] at h
  exact ⟨es, rfl, h⟩

lemma exists_scalar_of_shows {v : Json} {n : Node} (hl : ∀ vs, v ≠ .list vs)
    (ho : ∀ fs, v ≠ .object fs) (h : shows v n = true) :
    (∃ tag style text, n = .scalar tag style text) ∧ showsLeaf v n = true := by
  cases v with
  | list vs => exact absurd rfl (hl vs)
  | object fs => exact absurd rfl (ho fs)
  | _ =>
    rcases n with ⟨tag, style, text⟩ | _ | _ | _ <;> simp only [shows, Bool.false_eq_true] at h
    exact ⟨⟨tag, style, text, rfl⟩, h⟩

lemma toJson?_of_shows_leaf {v : Json} {n : Node} (hl : ∀ vs, v ≠ .list vs)
    (ho : ∀ fs, v ≠ .object fs) (h : shows v n = true) (d : Nat) : n.toJson? d = some v := by
  obtain ⟨⟨tag, style, text, rfl⟩, hleaf⟩ := exists_scalar_of_shows hl ho h
  unfold showsLeaf at hleaf
  rw [Bool.and_eq_true, Option.any_eq_true] at hleaf
  obtain ⟨⟨w, hw, hsame⟩, -⟩ := hleaf
  rw [toJson?_scalar, hw, eq_of_same_leaf hl ho hsame]

lemma text?_of_shows {s : String} {n : Node} (h : shows (.text s) n = true) :
    Yaml.format.text? n = some s := by
  have hleaf := (exists_scalar_of_shows (by simp) (by simp) h).2
  rw [showsLeaf, Bool.and_eq_true, beq_iff_eq] at hleaf
  exact hleaf.2

lemma natural?_of_shows {k : Nat} {n : Node} (h : shows (.int k) n = true) :
    Yaml.format.natural? n = some k := by
  have hleaf := (exists_scalar_of_shows (by simp [Json.int]) (by simp [Json.int]) h).2
  have hk : ¬(k : Int) < 0 := by omega
  rw [Json.int, showsLeaf, Bool.and_eq_true, Bool.or_eq_true, decide_eq_true_eq,
    beq_iff_eq, Int.toNat_natCast] at hleaf
  exact hleaf.2.resolve_left hk

mutual

/-- A node that shows a normal value is read as that value. -/
theorem toJson?_of_shows {d : Nat} (v : Json) (n : Node) (hv : isNormal d v = true)
    (hn : shows v n = true) : n.toJson? d = some v := by
  cases v with
  | list vs =>
    obtain ⟨ns, rfl, hns⟩ := exists_list_of_shows hn
    cases d with
    | zero => simp [isNormal] at hv
    | succ d =>
      rw [isNormal] at hv
      rw [Node.toJson?, toItems?_of_shows vs ns hv hns]
      rfl
  | object fs =>
    obtain ⟨es, rfl, hes⟩ := exists_map_of_shows hn
    cases d with
    | zero => simp [isNormal] at hv
    | succ d =>
      rw [isNormal, Bool.and_eq_true, decide_eq_true_eq] at hv
      rw [Node.toJson?, toFields?_of_shows fs es hv.2 hes, ← ofFields_of_ascending hv.1]
      rfl
  | null => exact toJson?_of_shows_leaf (by simp) (by simp) hn d
  | bool b => exact toJson?_of_shows_leaf (by simp) (by simp) hn d
  | number x => exact toJson?_of_shows_leaf (by simp) (by simp) hn d
  | text s => exact toJson?_of_shows_leaf (by simp) (by simp) hn d

theorem toItems?_of_shows {d : Nat} (vs : List Json) (ns : List Node)
    (hv : areNormal d vs = true) (hn : showsItems vs ns = true) :
    Node.toItems? d ns = some vs := by
  cases vs with
  | nil =>
    cases ns with
    | nil => rfl
    | cons n ns => simp [showsItems] at hn
  | cons v vs =>
    cases ns with
    | nil => simp [showsItems] at hn
    | cons n ns =>
      rw [areNormal, Bool.and_eq_true] at hv
      rw [showsItems, Bool.and_eq_true] at hn
      rw [Node.toItems?, toJson?_of_shows v n hv.1 hn.1, toItems?_of_shows vs ns hv.2 hn.2]
      rfl

theorem toFields?_of_shows {d : Nat} (fs : List (String × Json)) (es : List (Node × Node))
    (hv : fieldsNormal d fs = true) (hn : showsFields fs es = true) :
    Node.toFields? d es = some fs := by
  cases fs with
  | nil =>
    cases es with
    | nil => rfl
    | cons e es => simp [showsFields] at hn
  | cons f fs =>
    cases es with
    | nil => simp [showsFields] at hn
    | cons e es =>
      obtain ⟨key, v⟩ := f
      rw [fieldsNormal, Bool.and_eq_true] at hv
      rw [showsFields, Bool.and_eq_true, Bool.and_eq_true, beq_iff_eq] at hn
      obtain ⟨⟨hkey, hvalue⟩, hrest⟩ := hn
      rw [Node.toFields?, hkey, toJson?_of_shows v e.2 hv.1 hvalue,
        toFields?_of_shows fs es hv.2 hrest]
      rfl

end

/-! ### Records in documents -/

lemma fields?_of_shows {fs : List (String × Json)} {n : Node} (h : shows (.object fs) n = true) :
    ∃ gs, n.fields? = some gs ∧
      List.Forall₂ (fun f g => f.1 = g.1 ∧ shows f.2 g.2 = true) fs gs := by
  obtain ⟨es, rfl, hes⟩ := exists_map_of_shows h
  rw [Node.fields?]
  clear h
  induction fs generalizing es with
  | nil =>
    cases es with
    | nil => exact ⟨[], rfl, .nil⟩
    | cons e es => simp [showsFields] at hes
  | cons f fs ih =>
    cases es with
    | nil => simp [showsFields] at hes
    | cons e es =>
      rw [showsFields, Bool.and_eq_true, Bool.and_eq_true, beq_iff_eq] at hes
      obtain ⟨⟨hkey, hvalue⟩, hrest⟩ := hes
      obtain ⟨gs, hgs, hall⟩ := ih es hrest
      refine ⟨(f.1, e.2) :: gs, ?_, .cons ⟨rfl, hvalue⟩ hall⟩
      rw [List.mapM_cons, hkey, hgs]
      rfl

lemma items?_of_shows {vs : List Json} {n : Node} (h : shows (.list vs) n = true) :
    ∃ ns, n.items? = some ns ∧ List.Forall₂ (fun v n => shows v n = true) vs ns := by
  obtain ⟨ns, rfl, hns⟩ := exists_list_of_shows h
  refine ⟨ns, rfl, ?_⟩
  clear h
  induction vs generalizing ns with
  | nil =>
    cases ns with
    | nil => exact .nil
    | cons n ns => simp [showsItems] at hns
  | cons v vs ih =>
    cases ns with
    | nil => simp [showsItems] at hns
    | cons n ns =>
      rw [showsItems, Bool.and_eq_true] at hns
      exact .cons hns.1 (ih ns hns.2)

lemma faithful_yaml : Faithful Yaml.format fun v n => shows v n = true where
  text := text?_of_shows
  list := items?_of_shows
  object h _ := fields?_of_shows h

/-! ### Cassettes in documents -/

lemma interaction_read?_of_shows {x : Interaction} {n : Node} (hin : isNormal 125 x.input = true)
    (hout : isNormal 125 x.output = true) (h : shows x.toJson n = true) :
    Interaction.read? Yaml.format 2 n = some x := by
  obtain ⟨gs, hgs, hlook⟩ := record?_of_shown faithful_yaml Interaction.fieldNames
    (by change Interaction.fieldNames.Nodup; decide) h
  obtain ⟨seq, hseq, hseq'⟩ := hlook "seq" (.int x.seq) rfl
  obtain ⟨port, hport, hport'⟩ := hlook "port" (.text x.port) rfl
  obtain ⟨method, hmethod, hmethod'⟩ := hlook "method" (.text x.method) rfl
  obtain ⟨input, hinput, hinput'⟩ := hlook "input" x.input rfl
  obtain ⟨output, houtput, houtput'⟩ := hlook "output" x.output rfl
  rw [Interaction.read?, hgs]
  simp only [Option.bind_eq_bind, Option.bind_some]
  have hin' : Yaml.format.json? 3 input = some x.input := toJson?_of_shows x.input input hin hinput'
  have hout' : Yaml.format.json? 3 output = some x.output :=
    toJson?_of_shows x.output output hout houtput'
  rw [required_of_lookup hseq (natural?_of_shows hseq'), Option.bind_some,
    required_of_lookup hport (text?_of_shows hport'), Option.bind_some,
    required_of_lookup hmethod (text?_of_shows hmethod'), Option.bind_some,
    required_of_lookup hinput hin', Option.bind_some, required_of_lookup houtput hout']
  rfl

lemma cassette_read?_of_shows {c : Cassette} {n : Node}
    (hcalls : ∀ x ∈ c.interactions, isNormal 125 x.input = true ∧ isNormal 125 x.output = true)
    (htime : Timestamp.ofText? c.recordedAt.toText = some c.recordedAt)
    (h : shows c.toJson n = true) : Cassette.read? Yaml.format n = some c := by
  obtain ⟨gs, hgs, hlook⟩ := record?_of_shown faithful_yaml Cassette.fieldNames
    (by change Cassette.fieldNames.Nodup; decide) h
  obtain ⟨name, hname, hname'⟩ := hlook "name" (.text c.name) rfl
  obtain ⟨version, hversion, hversion'⟩ := hlook "tool_version" (.text c.toolVersion) rfl
  obtain ⟨time, htime', htime''⟩ := hlook "recorded_at" (.text c.recordedAt.toText) rfl
  obtain ⟨root, hroot, hroot'⟩ := hlook "source_root" (.text c.sourceRoot) rfl
  obtain ⟨items, hitems, hitems'⟩ :=
    hlook "interactions" (.list (c.interactions.map Interaction.toJson)) rfl
  have hmoment : (Yaml.format.text? time).bind Timestamp.ofText? = some c.recordedAt := by
    rw [text?_of_shows htime'', Option.bind_some, htime]
  have hlist : Yaml.format.list? (Interaction.read? Yaml.format 2) items = some c.interactions :=
    list?_of_shown faithful_yaml (fun x hx m hm =>
      interaction_read?_of_shows (hcalls x hx).1 (hcalls x hx).2 hm) hitems'
  rw [Cassette.read?, hgs]
  simp only [Option.bind_eq_bind, Option.bind_some]
  rw [required_of_lookup hname (text?_of_shows hname'), Option.bind_some, Fields.withDefault,
    hversion]
  dsimp only
  rw [text?_of_shows hversion', Option.bind_some, required_of_lookup htime' hmoment,
    Option.bind_some, required_of_lookup hroot (text?_of_shows hroot'), Option.bind_some,
    required_of_lookup hitems hlist]
  rfl

/-! ### What a recording holds is normal -/

lemma isNormal_field {key : String} {v : Json} {d : Nat} (h : isNormal d v = true) :
    isNormal (d + 1) (.object [(key, v)]) = true := by
  simp [isNormal, fieldsNormal, h]

lemma areNormal_texts (d : Nat) (texts : List String) :
    areNormal d (texts.map .text) = true := by
  induction texts with
  | nil => rfl
  | cons t texts ih =>
    rw [List.map_cons, areNormal, ih]
    rfl

lemma isNormal_input (r : Request) (d : Nat) : isNormal (d + 1) r.input = true := by
  cases r with
  | write path text =>
    have hkeys : ["bytes", "path"].Pairwise (· < ·) := by decide
    have hvalues : fieldsNormal d
        [("bytes", .int text.utf8ByteSize), ("path", .text path)] = true := rfl
    rw [Request.input, isNormal, hvalues, Bool.and_true, decide_eq_true_eq]
    exact hkeys
  | _ => exact isNormal_field rfl

lemma isNormal_outcome {α : Type} {value : α → Json} {d : Nat}
    (h : ∀ a, isNormal d (value a) = true) (a : Except String α) :
    isNormal (d + 1) (Interaction.outcome value a) = true := by
  cases a with
  | error reason => exact isNormal_field rfl
  | ok a => exact isNormal_field (h a)

lemma isNormal_output (r : Request) (a : r.Answer) (d : Nat) :
    isNormal (d + 2) (r.output a) = true := by
  cases r with
  | walkFiles path =>
    have hpaths : ∀ paths : List String, isNormal (d + 1) (.list (paths.map .text)) = true :=
      fun paths => areNormal_texts d paths
    exact isNormal_outcome hpaths a
  | readText path => exact isNormal_outcome (fun _ => rfl) a
  | write path text => exact isNormal_outcome (fun _ => rfl) a
  | «exists» path => rfl

/-- A cassette whose calls are calls of file systems is read back from its file. -/
theorem cassette_ofText?_toText {c : Cassette} {calls : List Call} {k : Nat}
    (hcalls : c.interactions = interactionsFrom k calls) (htime : c.recordedAt.isMoment = true)
    (hnano : c.recordedAt.nanosecond < 1000000000) (hyaml : ReadsBack c.toJson) :
    Cassette.ofText? c.toText = some c := by
  rw [ReadsBack, Option.any_eq_true] at hyaml
  obtain ⟨n, hn, hshows⟩ := hyaml
  rw [Cassette.ofText?, Cassette.toText, hn, Option.bind_some]
  refine cassette_read?_of_shows ?_ (ofText?_toText htime hnano) hshows
  intro x hx
  rw [hcalls] at hx
  obtain ⟨call, -, hin, hout⟩ := exists_call_of_mem_interactionsFrom hx
  rw [hin, hout]
  exact ⟨isNormal_input call.request 124, isNormal_output call.request call.answer 123⟩

end ServiceLinker.Proofs
