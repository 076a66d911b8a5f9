import ServiceLinker.Config.Layers
import ServiceLinker.FileSystem.Table
import ServiceLinker.Proofs.TreeAccounting

/-!
# Where settings come from

Each setting has the value of the highest layer that says something about it. Every layer is
checked before the next one is laid over it, so that a refusal cannot be overridden from above. This
file says what a document of settings states, lists the objections to the layers in the order in
which they are raised, and shows that the first objection, or else the layers, decide a run.
-/

namespace ServiceLinker.Proofs

open Config (descriptorVariable declarationVariable markerVariable ambiguityVariable)

/-! ### What a document states -/

/-- Settings some of which are left open. -/
structure StatedSettings where
  descriptorExtension : Option String
  declarationExtension : Option String
  contractMarker : Option String
  ambiguity : Option AmbiguityPolicy
  deriving DecidableEq

namespace StatedSettings

/-- Settings of which nothing is stated. -/
def nothing : StatedSettings := ⟨none, none, none, none⟩

/-- Stated settings with the defaults for what is left open. -/
def overDefaults (stated : StatedSettings) : Config where
  descriptorExtension := stated.descriptorExtension.getD Config.default.descriptorExtension
  declarationExtension := stated.declarationExtension.getD Config.default.declarationExtension
  contractMarker := stated.contractMarker.getD Config.default.contractMarker
  ambiguity := stated.ambiguity.getD Config.default.ambiguity

end StatedSettings

/-- The fields have the value under the name, or have no such field and no value. -/
def HasValue {ν α : Type} (fields : Fields ν) (name : String) (read : ν → Option α)
    (value : Option α) : Prop :=
  (fields.lookup name).map read = value.map some

/-- The text is a document of settings with known fields, each at most once, that states these
settings and no others. -/
def States (text : String) (stated : StatedSettings) : Prop :=
  ∃ root fields, Yaml.rootOfText? text = some root ∧
    Yaml.format.record? Config.fieldNames root = some fields ∧
    Fields.known Config.fieldNames fields = true ∧
    HasValue fields "descriptor_extension" Yaml.format.text? stated.descriptorExtension ∧
    HasValue fields "declaration_extension" Yaml.format.text? stated.declarationExtension ∧
    HasValue fields "contract_marker" Yaml.format.text? stated.contractMarker ∧
    HasValue fields "ambiguity" (fun v => (Yaml.format.caseName? v).bind AmbiguityPolicy.ofTag?)
      stated.ambiguity

lemma withDefault_eq_some_iff {ν α : Type} {fields : Fields ν} {name : String}
    {read : ν → Option α} {default a : α} : fields.withDefault name read default = some a ↔
      ∃ value, HasValue fields name read value ∧ a = value.getD default := by
  unfold Fields.withDefault HasValue
  cases fields.lookup name with
  | none =>
    constructor
    · intro h
      exact ⟨none, rfl, (Option.some.inj h).symm⟩
    · rintro ⟨value, hvalue, rfl⟩
      cases value with
      | none => rfl
      | some b => cases hvalue
  | some v =>
    dsimp only [Option.map_some]
    constructor
    · intro h
      exact ⟨some a, congrArg some h, rfl⟩
    · rintro ⟨value, hvalue, rfl⟩
      cases value with
      | none => cases hvalue
      | some b => exact Option.some.inj hvalue

/-- A document is read as what it states, with the defaults for the rest. -/
theorem parse?_eq_some_iff {text : String} {c : Config} :
    Config.parse? text = some c ↔ ∃ stated, States text stated ∧ c = stated.overDefaults := by
  unfold Config.parse? Config.read?
  simp only [Option.bind_eq_bind, Option.bind_eq_some_iff]
  constructor
  · rintro ⟨root, hroot, fields, hfields, h⟩
    split_ifs at h with hknown
    · cases h
    · rw [Bool.not_eq_true', Bool.not_eq_false] at hknown
      simp only [Option.bind_eq_some_iff, withDefault_eq_some_iff] at h
      obtain ⟨_, ⟨descriptor, hdescriptor, rfl⟩, _, ⟨declaration, hdeclaration, rfl⟩, _,
        ⟨marker, hmarker, rfl⟩, _, ⟨policy, hpolicy, rfl⟩, hc⟩ := h
      exact ⟨⟨descriptor, declaration, marker, policy⟩, ⟨root, fields, hroot, hfields, hknown,
        hdescriptor, hdeclaration, hmarker, hpolicy⟩, (Option.some.inj hc).symm⟩
  · rintro ⟨stated, ⟨root, fields, hroot, hfields, hknown, hdescriptor, hdeclaration, hmarker,
      hpolicy⟩, rfl⟩
    refine ⟨root, hroot, fields, hfields, ?_⟩
    rw [hknown, if_neg (by decide), withDefault_eq_some_iff.mpr ⟨_, hdescriptor, rfl⟩,
      withDefault_eq_some_iff.mpr ⟨_, hdeclaration, rfl⟩,
      withDefault_eq_some_iff.mpr ⟨_, hmarker, rfl⟩,
      withDefault_eq_some_iff.mpr ⟨_, hpolicy, rfl⟩]
    rfl

/-- What the file of a run states, if one is given. -/
def StatedBy : Option Reading → StatedSettings → Prop
  | none, stated => stated = .nothing
  | some (_, .ok text), stated => States text stated
  | some (_, .error _), _ => False

/-! ### Layers -/

/-- The policy that the environment asks for. -/
def environmentPolicy? (env : Environment) : Option AmbiguityPolicy :=
  (env ambiguityVariable).bind fun text => (AmbiguityPolicy.ofText text).toOption

/-- The settings of the layers: the environment over what a file states over the defaults, and the
command line above all for the policy. -/
def layered (options : LinkOptions) (env : Environment) (stated : StatedSettings) : Config where
  descriptorExtension := ((env descriptorVariable).or stated.descriptorExtension).getD
    Config.default.descriptorExtension
  declarationExtension := ((env declarationVariable).or stated.declarationExtension).getD
    Config.default.declarationExtension
  contractMarker := ((env markerVariable).or stated.contractMarker).getD
    Config.default.contractMarker
  ambiguity := ((options.ambiguity.or (environmentPolicy? env)).or stated.ambiguity).getD
    Config.default.ambiguity

/-- Settings with the texts that the environment puts in their place. -/
def withTexts (env : Environment) (c : Config) : Config where
  descriptorExtension := (env descriptorVariable).getD c.descriptorExtension
  declarationExtension := (env declarationVariable).getD c.declarationExtension
  contractMarker := (env markerVariable).getD c.contractMarker
  ambiguity := c.ambiguity

lemma layered_eq (options : LinkOptions) (env : Environment) (stated : StatedSettings) :
    layered options env stated =
      { withTexts env stated.overDefaults with
        ambiguity := options.ambiguity.getD
          ((environmentPolicy? env).getD stated.overDefaults.ambiguity) } := by
  unfold layered withTexts StatedSettings.overDefaults
  congr 1
  · cases env descriptorVariable <;> rfl
  · cases env declarationVariable <;> rfl
  · cases env markerVariable <;> rfl
  · cases options.ambiguity <;> cases environmentPolicy? env <;> rfl

/-- Whether settings are valid does not depend on the policy. -/
lemma validate_withPolicy (c : Config) (policy : AmbiguityPolicy) :
    ({ c with ambiguity := policy } : Config).validate = c.validate := rfl

/-! ### Objections -/

/-- The objection to settings that are not valid. -/
def invalid (c : Config) : List LinkError :=
  match c.validate with
  | .error e => [e]
  | .ok () => []

/-- The objection to a given file: that it cannot be read, that it is no document of settings, or
that its settings are not valid by themselves. -/
def fileObjection : Option Reading → List LinkError
  | none => []
  | some (path, .error reason) => [.config ("cannot read " ++ path ++ ": " ++ reason)]
  | some (_, .ok text) =>
    match Config.parse? text with
    | none => [.config "not a document of settings"]
    | some c => invalid c

/-- The objection to the policy that the environment asks for. -/
def policyObjection (env : Environment) : List LinkError :=
  match (env ambiguityVariable).map AmbiguityPolicy.ofText with
  | some (.error e) => [e]
  | _ => []

/-- The settings of the file, which may be invalid, or else the defaults. -/
def fileSettings? : Option Reading → Option Config
  | none => some .default
  | some (_, .ok text) => Config.parse? text
  | some (_, .error _) => none

/-- All objections to the layers, in the order in which they count. -/
def objections (env : Environment) (reading : Option Reading) : List LinkError :=
  fileObjection reading ++ policyObjection env ++
    (fileSettings? reading).toList.flatMap fun c => invalid (withTexts env c)

/-- A value, unless there is an objection. -/
def unlessObjected {α : Type} (es : List LinkError) (a : α) : Except LinkError α :=
  match es.head? with
  | some e => .error e
  | none => .ok a

lemma invalid_eq_nil_iff {c : Config} : invalid c = [] ↔ c.validate = .ok () := by
  unfold invalid
  cases c.validate <;> simp

lemma overlay_eq (env : Environment) (c : Config) : c.overlay env =
    unlessObjected (policyObjection env ++ invalid (withTexts env c))
      { withTexts env c with ambiguity := (environmentPolicy? env).getD c.ambiguity } := by
  -- only the texts bear on the check, so that the policy may be set before or after it
  have hchecked : ∀ policy, (match ({ withTexts env c with ambiguity := policy } : Config).validate
      with
      | .error e => .error e
      | .ok () => .ok { withTexts env c with ambiguity := policy }) =
        unlessObjected (invalid (withTexts env c))
          { withTexts env c with ambiguity := policy } := by
    intro policy
    rw [validate_withPolicy, invalid]
    cases (withTexts env c).validate <;> rfl
  unfold Config.overlay Config.environmentPolicy policyObjection environmentPolicy?
  cases env ambiguityVariable with
  | none => exact hchecked c.ambiguity
  | some text =>
    dsimp only [Option.map_some, Option.bind_some]
    cases AmbiguityPolicy.ofText text with
    | error e => rfl
    | ok policy => exact hchecked policy

/-! ### Runs -/

/-- What the lowest layers come to. -/
def baseOf : Option Reading → Except LinkError Config
  | none => .ok .default
  | some (path, .error reason) => .error (.config ("cannot read " ++ path ++ ": " ++ reason))
  | some (_, .ok text) => Config.ofText text

/-- The lowest layers come to an objection to the file, or to what it states. -/
lemma baseOf_cases (reading : Option Reading) :
    (∃ e, baseOf reading = .error e ∧ (fileObjection reading).head? = some e) ∨
      ∃ stated, StatedBy reading stated ∧ baseOf reading = .ok stated.overDefaults ∧
        fileObjection reading = [] ∧ fileSettings? reading = some stated.overDefaults := by
  rcases reading with _ | ⟨path, reason | text⟩
  · exact .inr ⟨.nothing, rfl, rfl, rfl, rfl⟩
  · exact .inl ⟨_, rfl, rfl⟩
  · rw [baseOf, Config.ofText, fileObjection, fileSettings?]
    cases hparse : Config.parse? text with
    | none => exact .inl ⟨_, rfl, rfl⟩
    | some c =>
      obtain ⟨stated, hstated, rfl⟩ := parse?_eq_some_iff.mp hparse
      dsimp only [invalid]
      cases stated.overDefaults.validate with
      | error e => exact .inl ⟨e, rfl, rfl⟩
      | ok _ => exact .inr ⟨stated, hstated, rfl, rfl, rfl⟩

/-- What the layers above the lowest make of it. -/
def settingsOf (options : LinkOptions) (env : Environment) (base : Except LinkError Config) :
    Except LinkError Config :=
  base.bind fun c => (c.overlay env).map fun c =>
    { c with ambiguity := options.ambiguity.getD c.ambiguity }

/-- The layers come to their first objection, or to valid settings that are those of the layers. -/
lemma settingsOf_cases (options : LinkOptions) (env : Environment) (reading : Option Reading) :
    (∃ e, settingsOf options env (baseOf reading) = .error e ∧
        (objections env reading).head? = some e) ∨
      ∃ stated, StatedBy reading stated ∧ objections env reading = [] ∧
        (layered options env stated).validate = .ok () ∧
        settingsOf options env (baseOf reading) = .ok (layered options env stated) := by
  rcases baseOf_cases reading with ⟨e, hbase, hfirst⟩ | ⟨stated, hstated, hbase, hfile, hsettings⟩
  · refine .inl ⟨e, ?_, ?_⟩
    · rw [hbase]
      rfl
    · rw [objections, List.append_assoc, List.head?_append, hfirst, Option.some_or]
  · have hobjections : objections env reading =
        policyObjection env ++ invalid (withTexts env stated.overDefaults) := by
      rw [objections, hfile, hsettings, Option.toList_some, List.flatMap_singleton, List.nil_append]
    have hvalue : settingsOf options env (baseOf reading) =
        unlessObjected (objections env reading) (layered options env stated) := by
      rw [settingsOf, hbase, layered_eq, hobjections]
      change (Config.overlay env stated.overDefaults).map _ = _
      rw [overlay_eq]
      unfold unlessObjected
      cases (policyObjection env ++ invalid (withTexts env stated.overDefaults)).head? <;> rfl
    rw [hvalue]
    cases hlist : objections env reading with
    | cons e es => exact .inl ⟨e, rfl, rfl⟩
    | nil =>
      refine .inr ⟨stated, hstated, rfl, ?_, rfl⟩
      rw [hobjections, List.append_eq_nil_iff, invalid_eq_nil_iff] at hlist
      rw [layered_eq, validate_withPolicy]
      exact hlist.2

section

variable {σ : Type} {fs : FileSystem σ} {s : σ}

lemma run_base {config : Option String}
    (hread : ∀ path, config = some path → ∃ a, (fs.answer (.readText path) s).1 = .ok a) :
    ∃ reading t, Option.map Prod.fst reading = config ∧
      callsOf fs (Config.base config) s = reading.toList.map Reading.call ∧
      (Config.base config).run fs s = ⟨.ok (baseOf reading), t, []⟩ := by
  cases config with
  | none => exact ⟨none, s, rfl, rfl, rfl⟩
  | some path =>
    obtain ⟨answer, hanswer⟩ := hread path rfl
    rcases h : fs.answer (.readText path) s with ⟨a, t⟩
    rw [h] at hanswer
    dsimp only at hanswer
    subst hanswer
    refine ⟨some (path, answer), t, rfl, ?_, ?_⟩
    · change callsOf fs (.ask (.readText path) _) s = _
      rw [callsOf_ask_ok h]
      cases answer <;> rfl
    · change (Config.load path).run fs s = _
      unfold Config.load Script.readText
      rw [run_bind_ok (run_request_ok h)]
      cases answer <;> rfl

lemma run_resolve {options : LinkOptions}
    (hread : ∀ path, options.config = some path → ∃ a, (fs.answer (.readText path) s).1 = .ok a)
    (env : Environment) :
    ∃ reading t, Option.map Prod.fst reading = options.config ∧
      callsOf fs (Config.resolve options env) s = reading.toList.map Reading.call ∧
      (Config.resolve options env).run fs s =
        ⟨.ok (settingsOf options env (baseOf reading)), t, []⟩ := by
  obtain ⟨reading, t, hpath, hcalls, hrun⟩ := run_base hread
  refine ⟨reading, t, hpath, ?_, ?_⟩
  · unfold Config.resolve
    rw [callsOf_bind hrun, hcalls]
    cases baseOf reading with
    | error e => exact List.append_nil _
    | ok c =>
      dsimp only
      cases c.overlay env <;> exact List.append_nil _
  · unfold Config.resolve settingsOf
    rw [run_bind_ok hrun]
    cases baseOf reading with
    | error e => rfl
    | ok c =>
      dsimp only [Except.bind]
      cases c.overlay env <;> rfl

/-- The settings of a run read the file that the command line names, if it names one. If the file
system answers, the first objection to the layers is what becomes of the settings. Without one they
are valid, and each of them comes from the highest layer that says something about it. -/
theorem resolve_by_layers {options : LinkOptions}
    (hread : ∀ path, options.config = some path → ∃ a, (fs.answer (.readText path) s).1 = .ok a)
    (env : Environment) :
    ∃ reading outcome t, Option.map Prod.fst reading = options.config ∧
      callsOf fs (Config.resolve options env) s = reading.toList.map Reading.call ∧
      (Config.resolve options env).run fs s = ⟨.ok outcome, t, []⟩ ∧
      (∀ e, outcome = .error e ↔ (objections env reading).head? = some e) ∧
      ∀ c, outcome = .ok c → c.validate = .ok () ∧
        ∃ stated, StatedBy reading stated ∧ c = layered options env stated := by
  obtain ⟨reading, t, hpath, hcalls, hrun⟩ := run_resolve hread env
  refine ⟨reading, settingsOf options env (baseOf reading), t, hpath, hcalls, hrun, ?_⟩
  rcases settingsOf_cases options env reading with
    ⟨e, hvalue, hfirst⟩ | ⟨stated, hstated, hnone, hvalid, hvalue⟩
  · rw [hvalue, hfirst]
    refine ⟨fun e' => ?_, fun c hc => by cases hc⟩
    rw [Except.error.injEq, Option.some.injEq]
  · rw [hvalue, hnone]
    refine ⟨fun e => by simp, ?_⟩
    intro c hc
    cases hc
    exact ⟨hvalid, stated, hstated, rfl⟩

end

/-- A file that states the marker and the policy. -/
def settingsTable : FileTable :=
  ⟨.ok [], [("link.yaml", .ok "contract_marker: '[C]'\nambiguity: error\n")], []⟩

def unknownPolicy : LinkError :=
  .config "unknown ambiguity policy \x22lax\x22 (expected first-match or error)"

def flaggedOptions : LinkOptions := ⟨"r", some "link.yaml", some .firstMatch⟩

/-- An environment that asks for another marker and for a policy. -/
def askingEnvironment (policy : String) (name : String) : Option String :=
  if name = markerVariable then some "[W]"
  else if name = ambiguityVariable then some policy
  else none

/-- The command line overrides the policy of the environment, but not one that has no known name. -/
theorem resolve_by_layers_settingsTable :
    (∀ path, flaggedOptions.config = some path →
      ∃ a, (FileTable.fileSystem.answer (.readText path) settingsTable).1 = .ok a) ∧
    (∃ reading stated t,
      (Config.resolve flaggedOptions (askingEnvironment " Strict ")).run FileTable.fileSystem
        settingsTable = ⟨.ok (.ok ⟨"svc", "cs", "[W]", .firstMatch⟩), t, []⟩ ∧
      StatedBy reading stated ∧
      layered flaggedOptions (askingEnvironment " Strict ") stated =
        ⟨"svc", "cs", "[W]", .firstMatch⟩) ∧
    ∃ reading t,
      (Config.resolve flaggedOptions (askingEnvironment "lax")).run FileTable.fileSystem
        settingsTable = ⟨.ok (.error unknownPolicy), t, []⟩ ∧
      (objections (askingEnvironment "lax") reading).head? = some unknownPolicy := by
  have hread : ∀ path, flaggedOptions.config = some path →
      ∃ a, (FileTable.fileSystem.answer (.readText path) settingsTable).1 = .ok a :=
    fun path _ => FileTable.fileSystem_answers (.readText path) settingsTable
  refine ⟨hread, ?_, ?_⟩
  · obtain ⟨reading, outcome, t, -, -, hrun, -, hvalue⟩ :=
      resolve_by_layers hread (askingEnvironment " Strict ")
    have hresult : ((Config.resolve flaggedOptions (askingEnvironment " Strict ")).run
        FileTable.fileSystem settingsTable).result =
          .ok (.ok ⟨"svc", "cs", "[W]", .firstMatch⟩) := by
      decide +kernel
    rw [hrun, Except.ok.injEq] at hresult
    rw [hresult] at hrun
    obtain ⟨-, stated, hstated, hlayers⟩ := hvalue _ hresult
    exact ⟨reading, stated, t, hrun, hstated, hlayers.symm⟩
  · obtain ⟨reading, outcome, t, -, -, hrun, herror, -⟩ :=
      resolve_by_layers hread (askingEnvironment "lax")
    have hresult : ((Config.resolve flaggedOptions (askingEnvironment "lax")).run
        FileTable.fileSystem settingsTable).result = .ok (.error unknownPolicy) := by
      decide +kernel
    rw [hrun, Except.ok.injEq] at hresult
    rw [hresult] at hrun
    exact ⟨reading, t, hrun, (herror _).mp hresult⟩

end ServiceLinker.Proofs
