import ServiceLinker.Document
import ServiceLinker.Yaml.Node.Compose
import ServiceLinker.Yaml.Resolution

/-!
# Typed values in YAML

Where a text is expected, every scalar is its text. Elsewhere an unquoted scalar is resolved, a
scalar of which nothing is written stands for an absent value, an empty list or an empty record,
and a tag may select a case or a resolution.
-/

namespace ServiceLinker.Yaml

namespace Node

def text? : Node → Option String
  | .scalar _ _ text => some text
  | _ => none

/-- The name behind the exclamation mark of a tag. -/
def tagCase? (tag : Option String) : Option String :=
  match tag.map String.toList with
  | some ('!' :: name) => if name.isEmpty then none else some (String.ofList name)
  | _ => none

/-- A natural below `2 ^ 64`, written without quotes or as a literal tagged as an integer. -/
def natural? : Node → Option Nat
  | .scalar tag style text =>
    if style = .plain || (style = .literal && tag = some (coreTag "int")) then
      match Resolved.int? text.toList with
      | some n => if text.startsWith "-" || !(n < (Nat.pow 2 64 : Nat)) then none else some n.toNat
      | none => none
    else none
  | _ => none

/-- A case without content: its name as a scalar, or as the tag of a null. -/
def caseName? : Node → Option String
  | .scalar tag style text =>
    match tagCase? tag with
    | some name =>
      if style = .plain && (text.isEmpty || Resolved.isNull text) then some name else none
    | none => some text
  | _ => none

/-- An unquoted scalar without text or with a spelling of null. -/
def isAbsent : Node → Bool
  | .scalar tag .plain text =>
    match tag with
    | none => text.isEmpty || Resolved.isNull text
    | some t => if t = coreTag "null" then Resolved.isNull text else false
  | _ => false

def items? : Node → Option (List Node)
  | .list _ xs => some xs
  | v => if v.isEmptyPlain then some [] else none

/-- The entries of a mapping whose keys are scalars. -/
def fields? : Node → Option (List (String × Node))
  | .map _ es => es.mapM fun e => e.1.text?.map (·, e.2)
  | v => if v.isEmptyPlain then some [] else none

/-- The JSON value of a resolved scalar. An integer beyond 64 bits has none, and what is not a
finite number is null. -/
def resolvedJson? (text : String) : Resolved → Option Json
  | .null => some .null
  | .bool b => some (.bool b)
  | .int n => if Resolved.inWord 64 n then some (.int n) else none
  | .real x => some (.number (.real x))
  | .nonFinite => some .null
  | .text => some (.text text)

/-- The JSON value of a scalar: as its tag says, resolved if it has no quotes, else its text. -/
def scalarJson? (tag : Option String) (style : Style) (text : String) : Option Json :=
  match tag with
  | none => if style = .plain then resolvedJson? text (.of text) else some (.text text)
  | some t =>
    if (tagCase? tag).isSome then none
    else if t = coreTag "bool" then (Resolved.bool? text).map .bool
    else if t = coreTag "int" then
      ((Resolved.int? text.toList).filter (Resolved.inWord 64)).map .int
    else if t = coreTag "float" then (Resolved.float? text).bind (resolvedJson? text)
    else if t = coreTag "null" then if Resolved.isNull text then some .null else none
    else if t.startsWith "!" && style = .plain then resolvedJson? text (.of text)
    else some (.text text)

mutual

/-- The JSON value of a node that nests no deeper than `depth`; of equal keys the last counts. -/
def toJson? (depth : Nat) : Node → Option Json
  | .scalar tag style text => scalarJson? tag style text
  | .list tag xs =>
    if (tagCase? tag).isSome then none
    else
      match depth with
      | 0 => none
      | depth + 1 => (toItems? depth xs).map .list
  | .map tag es =>
    if (tagCase? tag).isSome then none
    else
      match depth with
      | 0 => none
      | depth + 1 => (toFields? depth es).map .ofFields
  | .cycle => none

/-- The JSON values of a list of nodes. -/
def toItems? (depth : Nat) : List Node → Option (List Json)
  | [] => some []
  | x :: xs => do
    let v ← toJson? depth x
    let vs ← toItems? depth xs
    pure (v :: vs)

/-- The JSON values of entries whose keys are scalars. -/
def toFields? (depth : Nat) : List (Node × Node) → Option (List (String × Json))
  | [] => some []
  | (k, x) :: es => do
    let k ← k.text?
    let v ← toJson? depth x
    let vs ← toFields? depth es
    pure ((k, v) :: vs)

end

/-- Collections nest at most this deep. -/
def depthLimit : Nat := 128

end Node

/-- How YAML shows typed values. -/
def format : DocumentFormat Node where
  text? := Node.text?
  natural? := Node.natural?
  caseName? := Node.caseName?
  isAbsent := Node.isAbsent
  items? := Node.items?
  fields? _ := Node.fields?
  json? depth v := v.toJson? (Node.depthLimit - depth)

/-- The root that a reader of typed values sees. A text without a document has a root of which
nothing is written. -/
def Document.rootNode : Document → Node
  | .blank => .absent
  | .root v => v

def rootOfText? (s : String) : Option Node := (Document.ofText? s).map Document.rootNode

end ServiceLinker.Yaml
