import ServiceLinker.Json.Basic

/-!
# The text of a JSON value

One printer with two layouts: everything on one line, or one item a line with an indentation of
two blanks a level. Only quotes, backslashes and the controls below the blank are escaped.
-/

namespace ServiceLinker.Json

open Decimal (reportNumber)

/-- What stands between the tokens of a text. -/
structure Layout where
  /-- The break before an item at the given depth, and before a closing bracket. -/
  lineBreak : Nat → List Char
  /-- What follows a colon. -/
  afterColon : List Char

/-- Everything on one line, without blanks. -/
def Layout.compact : Layout := ⟨fun _ => [], []⟩

/-- One item a line, indented by two blanks a level. -/
def Layout.pretty : Layout := ⟨fun depth => '\n' :: List.replicate (2 * depth) ' ', [' ']⟩

/-- One lower-case hexadecimal digit. -/
def hexDigit (n : Nat) : Char := Nat.digitChar n

/-- A character inside a quoted text. -/
def escapeChar (c : Char) : List Char :=
  if c = '\x22' then ['\\', c]
  else if c = '\\' then ['\\', c]
  else if c = '\x08' then ['\\', 'b']
  else if c = '\x0c' then ['\\', 'f']
  else if c = '\n' then ['\\', 'n']
  else if c = '\r' then ['\\', 'r']
  else if c = '\t' then ['\\', 't']
  else if c.toNat < 0x20 then
    ['\\', 'u', '0', '0', hexDigit (c.toNat / 16), hexDigit (c.toNat % 16)]
  else [c]

/-- A text between quotes. -/
def printText (s : String) : List Char := '\x22' :: (s.toList.flatMap escapeChar ++ ['\x22'])

/-- A number: an integer in decimal, a floating-point number as its shortest decimal. -/
def printNumber : Number → List Char
  | .int n => (toString n).toList
  | .real x => reportNumber.render x

mutual

/-- The text of a value at a depth. -/
def printAt (l : Layout) (depth : Nat) : Json → List Char
  | .null => "null".toList
  | .bool true => "true".toList
  | .bool false => "false".toList
  | .number n => printNumber n
  | .text s => printText s
  | .list [] => ['[', ']']
  | .list (item :: items) =>
    '[' :: (l.lineBreak (depth + 1) ++ printAt l (depth + 1) item ++
      printItems l (depth + 1) items ++ l.lineBreak depth ++ [']'])
  | .object [] => ['\x7b', '\x7d']
  | .object ((key, value) :: fields) =>
    '\x7b' :: (l.lineBreak (depth + 1) ++ printText key ++ ':' :: (l.afterColon ++
      printAt l (depth + 1) value ++ printFields l (depth + 1) fields ++
      l.lineBreak depth ++ ['\x7d']))

/-- The items after the first, each behind a comma. -/
def printItems (l : Layout) (depth : Nat) : List Json → List Char
  | [] => []
  | item :: items => ',' :: (l.lineBreak depth ++ printAt l depth item ++ printItems l depth items)

/-- The fields after the first, each behind a comma. -/
def printFields (l : Layout) (depth : Nat) : List (String × Json) → List Char
  | [] => []
  | (key, value) :: fields =>
    ',' :: (l.lineBreak depth ++ printText key ++ ':' :: (l.afterColon ++
      printAt l depth value ++ printFields l depth fields))

end

/-- The text of a value on one line. -/
def compact (j : Json) : String := String.ofList (printAt .compact 0 j)

/-- The indented text of a value. -/
def pretty (j : Json) : String := String.ofList (printAt .pretty 0 j)

end ServiceLinker.Json
