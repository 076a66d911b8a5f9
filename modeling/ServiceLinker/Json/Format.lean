import ServiceLinker.Document
import ServiceLinker.Json.Syntax

/-!
# Typed values in JSON

Every part has one reading: quoted texts are texts, null is absence, and a record is an object or
the list of its fields in their order.
-/

namespace ServiceLinker.Json

namespace Syntax

/-- The text of a quoted text. -/
def text? : Syntax → Option String
  | .text s => s
  | _ => none

/-- A natural below `2 ^ 64`. -/
def natural? : Syntax → Option Nat
  | .number x =>
    match x.value? with
    | some (.int n) => if 0 ≤ n then some n.toNat else none
    | _ => none
  | _ => none

/-- A case without content: its name, or an object whose one field has that name and holds
null. -/
def caseName? : Syntax → Option String
  | .text s => s
  | .object [(name, .null)] => name
  | _ => none

/-- Null stands for an absent value. -/
def isAbsent : Syntax → Bool
  | .null => true
  | _ => false

def items? : Syntax → Option (List Syntax)
  | .list xs => some xs
  | _ => none

/-- The fields of an object, or a list matched with the names of the fields. -/
def fields? (names : List String) : Syntax → Option (List (String × Syntax))
  | .object fs => fs.mapM fun f => f.1.map (·, f.2)
  | .list xs => if xs.length ≤ names.length then some (names.zip xs) else none
  | _ => none

/-- Collections nest at most this deep. -/
def depthLimit : Nat := 127

end Syntax

/-- How JSON shows typed values. -/
def format : DocumentFormat Syntax where
  text? := Syntax.text?
  natural? := Syntax.natural?
  caseName? := Syntax.caseName?
  isAbsent := Syntax.isAbsent
  items? := Syntax.items?
  fields? := Syntax.fields?
  json? depth v := v.toJson? (Syntax.depthLimit - depth)

end ServiceLinker.Json
