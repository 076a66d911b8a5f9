import ServiceLinker.Document
import ServiceLinker.LinkError
import ServiceLinker.Text.Blank
import ServiceLinker.Text.Quoted
import ServiceLinker.Text.Search

/-!
# Settings of a run

The extensions that tell descriptors and declarations from other files, the marker of a contract,
and what happens when several files match. Valid settings have two different bare extensions and
a marker that is not blank.
-/

namespace ServiceLinker

/-- What happens when several files satisfy a search. -/
inductive AmbiguityPolicy where
  /-- The first one counts. -/
  | firstMatch
  /-- The search fails. -/
  | error
  deriving DecidableEq, Repr

namespace AmbiguityPolicy

/-- The name of a policy in documents. -/
def tag : AmbiguityPolicy → String
  | .firstMatch => "first-match"
  | .error => "error"

/-- The policy with a given name in documents. -/
def ofTag? : String → Option AmbiguityPolicy
  | "first-match" => some .firstMatch
  | "error" => some .error
  | _ => none

@[simp] theorem ofTag?_tag (p : AmbiguityPolicy) : ofTag? p.tag = some p := by
  cases p <;> rfl

/-- The policy that a user asks for by one of its names, in any case and between blanks. -/
def ofText (s : String) : Except LinkError AmbiguityPolicy :=
  let name := String.ofList ((Text.trim s.toList).map Char.toLower)
  if ["first-match", "first_match", "first"].contains name then .ok .firstMatch
  else if ["error", "error-on-ambiguity", "strict"].contains name then .ok .error
  else .error (.config
    ("unknown ambiguity policy " ++ Text.quote name ++ " (expected first-match or error)"))

end AmbiguityPolicy

/-- The settings of a run. -/
structure Config where
  descriptorExtension : String
  declarationExtension : String
  contractMarker : String
  ambiguity : AmbiguityPolicy
  deriving DecidableEq, Repr

namespace Config

/-- The settings where nothing else is asked for. -/
def default : Config := ⟨"svc", "cs", "[ServiceContract]", .firstMatch⟩

/-- An extension without points and slashes. -/
def isBareExtension (s : String) : Bool :=
  !s.isEmpty && !s.toList.contains '.' && !s.toList.contains '/'

/-- The refusal of an extension that is not bare. -/
def notBare (field value : String) : LinkError :=
  .config (field ++ " must be a bare extension like \"cs\", got " ++ Text.quote value)

/-- The settings can be used. The first rule that they break is the one reported. -/
def validate (c : Config) : Except LinkError Unit :=
  if !isBareExtension c.descriptorExtension then
    .error (notBare "descriptor_extension" c.descriptorExtension)
  else if !isBareExtension c.declarationExtension then
    .error (notBare "declaration_extension" c.declarationExtension)
  else if Text.equalIgnoringCase c.descriptorExtension c.declarationExtension then
    .error (.config "descriptor and declaration extensions must differ")
  else if Text.allBlank c.contractMarker then
    .error (.config "contract_marker must not be empty")
  else .ok ()

/-- Settings that pass validation. -/
def Valid (c : Config) : Prop :=
  isBareExtension c.descriptorExtension = true ∧ isBareExtension c.declarationExtension = true ∧
    Text.equalIgnoringCase c.descriptorExtension c.declarationExtension = false ∧
    Text.allBlank c.contractMarker = false

theorem validate_eq_ok_iff (c : Config) : c.validate = .ok () ↔ c.Valid := by
  unfold validate Valid
  cases isBareExtension c.descriptorExtension <;>
    cases isBareExtension c.declarationExtension <;>
    cases Text.equalIgnoringCase c.descriptorExtension c.declarationExtension <;>
    cases Text.allBlank c.contractMarker <;> simp

/-! ## Settings as documents -/

variable {ν : Type}

def fieldNames : List String :=
  ["descriptor_extension", "declaration_extension", "contract_marker", "ambiguity"]

/-- Settings as a value. -/
def toJson (c : Config) : Json :=
  .object [("descriptor_extension", .text c.descriptorExtension),
    ("declaration_extension", .text c.declarationExtension),
    ("contract_marker", .text c.contractMarker), ("ambiguity", .text c.ambiguity.tag)]

/-- Settings read from a document. Fields that are left out keep their defaults, and fields of
unknown name are refused. -/
def read? (F : DocumentFormat ν) (v : ν) : Option Config := do
  let fields ← F.record? fieldNames v
  if !Fields.known fieldNames fields then none
  let descriptorExtension ←
    fields.withDefault "descriptor_extension" F.text? default.descriptorExtension
  let declarationExtension ←
    fields.withDefault "declaration_extension" F.text? default.declarationExtension
  let contractMarker ← fields.withDefault "contract_marker" F.text? default.contractMarker
  let ambiguity ← fields.withDefault "ambiguity"
    (fun v => (F.caseName? v).bind AmbiguityPolicy.ofTag?) default.ambiguity
  pure ⟨descriptorExtension, declarationExtension, contractMarker, ambiguity⟩

end Config

end ServiceLinker
