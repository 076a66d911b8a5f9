import ServiceLinker.Json.Basic

/-!
# Typed values in documents

Reports, bundles, configurations and recordings are read from JSON and from YAML by the same
rules: a record is a list of named fields, a name may be listed once, an optional field may be
left out or hold the absent value, and fields of unknown name are passed over. What differs is how
a format shows its texts, lists and fields, and that is what `DocumentFormat` says.
-/

namespace ServiceLinker

/-- How the values `ν` of a document format present themselves to a reader. -/
structure DocumentFormat (ν : Type) where
  /-- The value of a field that holds a text. -/
  text? : ν → Option String
  /-- The value of a field that holds a natural below `2 ^ 64`. -/
  natural? : ν → Option Nat
  /-- The name that selects one of several cases without content. -/
  caseName? : ν → Option String
  /-- The value says that an optional field is absent. -/
  isAbsent : ν → Bool
  /-- The items of a list. -/
  items? : ν → Option (List ν)
  /-- The named fields of a record whose known fields have the given names. -/
  fields? : List String → ν → Option (List (String × ν))
  /-- The JSON value of a part that lies within the given number of collections. -/
  json? : Nat → ν → Option Json

/-- The fields of a record as they stand in a document. -/
abbrev Fields (ν : Type) := List (String × ν)

namespace Fields

variable {ν : Type}

/-- No field of a known name is listed twice. -/
def distinct (names : List String) (fields : Fields ν) : Bool :=
  names.all fun name => fields.countP (·.1 = name) ≤ 1

/-- Every field has a known name. -/
def known (names : List String) (fields : Fields ν) : Bool :=
  fields.all fun f => names.contains f.1

/-- A field that must be there. -/
def required (fields : Fields ν) (name : String) (read : ν → Option α) : Option α :=
  (fields.lookup name).bind read

/-- A field with a default value. -/
def withDefault (fields : Fields ν) (name : String) (read : ν → Option α) (default : α) :
    Option α :=
  match fields.lookup name with
  | some v => read v
  | none => some default

/-- A field that may be left out or be absent. -/
def optional (F : DocumentFormat ν) (fields : Fields ν) (name : String) (read : ν → Option α) :
    Option (Option α) :=
  match fields.lookup name with
  | some v => if F.isAbsent v then some none else (read v).map some
  | none => some none

end Fields

namespace DocumentFormat

variable {ν : Type}

/-- The fields of a record in which no known name is repeated. -/
def record? (F : DocumentFormat ν) (names : List String) (v : ν) : Option (Fields ν) := do
  let fields ← F.fields? names v
  if Fields.distinct names fields then some fields else none

/-- A list of which every item can be read. -/
def list? (F : DocumentFormat ν) (read : ν → Option α) (v : ν) : Option (List α) := do
  let items ← F.items? v
  items.mapM read

end DocumentFormat

end ServiceLinker
