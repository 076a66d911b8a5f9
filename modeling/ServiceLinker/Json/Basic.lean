import ServiceLinker.Decimal.Shortest

/-!
# JSON values

Values without a fixed shape: the inputs and outputs of recorded calls, and the form in which
reports, bundles and recordings are written. The fields of an object keep the order in which they
are listed; an object whose keys came from outside is listed in ascending key order.
-/

namespace ServiceLinker

open Decimal (Binary64)

/-- A number is an integer of at most 64 bits or a finite binary floating-point number. -/
inductive Json.Number where
  | int (value : Int)
  | real (value : Binary64)
  deriving DecidableEq

/-- A JSON value. -/
inductive Json where
  | null
  | bool (value : Bool)
  | number (value : Json.Number)
  | text (value : String)
  | list (items : List Json)
  | object (fields : List (String × Json))

namespace Json

def int (n : Int) : Json := .number (.int n)

/-- A text if there is one, else null. -/
def ofOption (f : α → Json) : Option α → Json
  | some a => f a
  | none => .null

/-- The value of the first field with the given key. -/
def field? (key : String) : Json → Option Json
  | .object fields => fields.lookup key
  | _ => none

/-- The text of a text value. -/
def text? : Json → Option String
  | .text s => some s
  | _ => none

/-- The truth value of a Boolean. -/
def bool? : Json → Option Bool
  | .bool b => some b
  | _ => none

/-- The texts of a list that holds nothing else. -/
def texts? : Json → Option (List String)
  | .list items => items.mapM text?
  | _ => none

/-- Sets a key of a field list in ascending key order; a key that is there keeps one entry. -/
def insertField (key : String) (value : Json) : List (String × Json) → List (String × Json)
  | [] => [(key, value)]
  | (k, v) :: fields =>
    if key = k then (key, value) :: fields
    else if key < k then (key, value) :: (k, v) :: fields
    else (k, v) :: insertField key value fields

/-- The object with these fields in ascending key order; of equal keys the last one counts. -/
def ofFields (fields : List (String × Json)) : Json :=
  .object (fields.foldl (fun acc f => insertField f.1 f.2 acc) [])

theorem lookup_insertField_self (key : String) (value : Json) (fields : List (String × Json)) :
    (insertField key value fields).lookup key = some value := by
  induction fields with
  | nil => simp [insertField]
  | cons f fields ih =>
    obtain ⟨k, v⟩ := f
    unfold insertField
    split
    · simp
    · rename_i hne
      split
      · simp
      · have : (key == k) = false := by simpa using hne
        rw [List.lookup_cons, this]
        exact ih

mutual

/-- Structural equality. -/
def same : Json → Json → Bool
  | .null, .null => true
  | .bool a, .bool b => a == b
  | .number a, .number b => a == b
  | .text a, .text b => a == b
  | .list a, .list b => sameItems a b
  | .object a, .object b => sameFields a b
  | _, _ => false

/-- Structural equality of lists of values. -/
def sameItems : List Json → List Json → Bool
  | [], [] => true
  | a :: as, b :: bs => same a b && sameItems as bs
  | _, _ => false

/-- Structural equality of field lists. -/
def sameFields : List (String × Json) → List (String × Json) → Bool
  | [], [] => true
  | (k, a) :: as, (l, b) :: bs => k == l && same a b && sameFields as bs
  | _, _ => false

end

end Json

end ServiceLinker
