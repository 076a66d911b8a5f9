import ServiceLinker.Json.Numeral

/-!
# Reading JSON texts

A text is read into a tree that still holds numerals as digits and fields in the order written,
repeated keys included, because what a repeated key or an oversized number means depends on the
value that is being read. A quoted text that names half of a surrogate pair denotes no text; it
is still grammatical.
-/

namespace ServiceLinker.Json

/-- The tree of a JSON text. -/
inductive Syntax where
  | null
  | bool (value : Bool)
  | number (value : Numeral)
  | text (value : Option String)
  | list (items : List Syntax)
  | object (fields : List (Option String × Syntax))

namespace Syntax

/-- The blanks between tokens. -/
def isGap (c : Char) : Bool := c = ' ' || c = '\n' || c = '\t' || c = '\r'

/-- The text without leading blanks. -/
def skipGap (cs : List Char) : List Char := cs.dropWhile isGap

/-- What is left after a fixed word. -/
def word? : List Char → List Char → Option (List Char)
  | [], cs => some cs
  | w :: ws, c :: cs => if w = c then word? ws cs else none
  | _ :: _, [] => none

/-- A piece of a quoted text: a character, or a 16-bit unit written as an escape. -/
inductive Piece where
  | char (value : Char)
  | unit (value : Nat)

/-- The value of a hexadecimal digit. -/
def hexValue? (c : Char) : Option Nat :=
  if '0' ≤ c ∧ c ≤ '9' then some (c.toNat - 48)
  else if 'a' ≤ c ∧ c ≤ 'f' then some (c.toNat - 87)
  else if 'A' ≤ c ∧ c ≤ 'F' then some (c.toNat - 55)
  else none

/-- The value of four hexadecimal digits. -/
def unit? (a b c d : Char) : Option Nat := do
  let a ← hexValue? a
  let b ← hexValue? b
  let c ← hexValue? c
  let d ← hexValue? d
  pure (((a * 16 + b) * 16 + c) * 16 + d)

/-- The character that a short escape names. -/
def shortEscape? (c : Char) : Option Char :=
  if c = '\x22' || c = '\\' || c = '/' then some c
  else if c = 'b' then some '\x08'
  else if c = 'f' then some '\x0c'
  else if c = 'n' then some '\n'
  else if c = 'r' then some '\r'
  else if c = 't' then some '\t'
  else none

/-- The pieces up to the closing quote, and what follows it. Controls must be escaped. -/
def pieces? : List Char → Option (List Piece × List Char)
  | [] => none
  | '\\' :: 'u' :: a :: b :: c :: d :: cs => do
    let n ← unit? a b c d
    let (ps, rest) ← pieces? cs
    pure (.unit n :: ps, rest)
  | '\\' :: c :: cs => do
    let e ← shortEscape? c
    let (ps, rest) ← pieces? cs
    pure (.char e :: ps, rest)
  | c :: cs =>
    if c = '\x22' then some ([], cs)
    else if c = '\\' || c.toNat < 0x20 then none
    else do
      let (ps, rest) ← pieces? cs
      pure (.char c :: ps, rest)

/-- The characters of the pieces: a leading and a trailing surrogate make one character, and half
a pair makes none. -/
def joinPieces? : List Piece → Option (List Char)
  | [] => some []
  | .char c :: ps => (joinPieces? ps).map (c :: ·)
  | .unit n :: ps =>
    if 0xd800 ≤ n ∧ n < 0xdc00 then
      match ps with
      | .unit m :: ps =>
        if 0xdc00 ≤ m ∧ m < 0xe000 then
          (joinPieces? ps).map (Char.ofNat (0x10000 + (n - 0xd800) * 0x400 + (m - 0xdc00)) :: ·)
        else none
      | _ => none
    else if 0xdc00 ≤ n ∧ n < 0xe000 then none
    else (joinPieces? ps).map (Char.ofNat n :: ·)

/-- A quoted text after its opening quote. -/
def quoted? (cs : List Char) : Option (Option String × List Char) :=
  (pieces? cs).map fun (ps, rest) => ((joinPieces? ps).map String.ofList, rest)

/-- The longest run of decimal digits, and what follows it. -/
def digits (cs : List Char) : List Char × List Char :=
  (cs.takeWhile Char.isDigit, cs.dropWhile Char.isDigit)

/-- A point with at least one digit, or nothing. -/
def fraction? : List Char → Option (Option (List Char) × List Char)
  | '.' :: cs =>
    let (ds, rest) := digits cs
    if ds.isEmpty then none else some (some ds, rest)
  | cs => some (none, cs)

/-- The sign of an exponent and what follows it. -/
def exponentSign : List Char → Bool × List Char
  | '+' :: cs => (false, cs)
  | '-' :: cs => (true, cs)
  | cs => (false, cs)

/-- An exponent with at least one digit, or nothing. -/
def exponent? : List Char → Option (Option (Bool × List Char) × List Char)
  | c :: cs =>
    if c = 'e' || c = 'E' then
      let (negative, cs) := exponentSign cs
      let (ds, rest) := digits cs
      if ds.isEmpty then none else some (some (negative, ds), rest)
    else some (none, c :: cs)
  | [] => some (none, [])

/-- A numeral after its sign: no leading zeros, at least one digit everywhere. -/
def numeral? (negative : Bool) (cs : List Char) : Option (Syntax × List Char) := do
  let (whole, rest) := digits cs
  if whole.isEmpty || (whole.length ≠ 1 && whole.head? = some '0') then none
  let (fraction, rest) ← fraction? rest
  let (exponent, rest) ← exponent? rest
  pure (.number ⟨negative, whole, fraction, exponent⟩, rest)

mutual

/-- A value with the blanks before it, and what follows it. -/
def valueFrom? : Nat → List Char → Option (Syntax × List Char)
  | 0, _ => none
  | fuel + 1, cs =>
    match skipGap cs with
    | [] => none
    | c :: cs =>
      if c = '[' then
        match skipGap cs with
        | ']' :: rest => some (.list [], rest)
        | cs => (itemsFrom? fuel cs).map fun (xs, rest) => (.list xs, rest)
      else if c = '\x7b' then
        match skipGap cs with
        | '\x7d' :: rest => some (.object [], rest)
        | cs => (fieldsFrom? fuel cs).map fun (fs, rest) => (.object fs, rest)
      else if c = '\x22' then (quoted? cs).map fun (s, rest) => (.text s, rest)
      else if c = '-' then numeral? true cs
      else if c.isDigit then numeral? false (c :: cs)
      else if c = 'n' then (word? "ull".toList cs).map fun rest => (.null, rest)
      else if c = 't' then (word? "rue".toList cs).map fun rest => (.bool true, rest)
      else if c = 'f' then (word? "alse".toList cs).map fun rest => (.bool false, rest)
      else none

/-- The items of a list up to its closing bracket. -/
def itemsFrom? : Nat → List Char → Option (List Syntax × List Char)
  | 0, _ => none
  | fuel + 1, cs => do
    let (x, rest) ← valueFrom? fuel cs
    match skipGap rest with
    | ',' :: rest =>
      let (xs, rest) ← itemsFrom? fuel rest
      pure (x :: xs, rest)
    | ']' :: rest => pure ([x], rest)
    | _ => none

/-- The fields of an object up to its closing brace. -/
def fieldsFrom? : Nat → List Char → Option (List (Option String × Syntax) × List Char)
  | 0, _ => none
  | fuel + 1, cs =>
    match skipGap cs with
    | '\x22' :: cs => do
      let (key, rest) ← quoted? cs
      match skipGap rest with
      | ':' :: rest =>
        let (x, rest) ← valueFrom? fuel rest
        match skipGap rest with
        | ',' :: rest =>
          let (fs, rest) ← fieldsFrom? fuel rest
          pure ((key, x) :: fs, rest)
        | '\x7d' :: rest => pure ([(key, x)], rest)
        | _ => none
      | _ => none
    | _ => none

end

/-- The tree of a whole text. Every step of the reader consumes a character, so the length of the
text is fuel enough. -/
def ofText? (s : String) : Option Syntax :=
  let cs := s.toList
  match valueFrom? (cs.length + 1) cs with
  | some (x, rest) => if (skipGap rest).isEmpty then some x else none
  | none => none

mutual

/-- The value that a tree denotes if it nests no deeper than `depth`: every number must be in
range, every text must be one, and of equal keys the last counts. -/
def toJson? (depth : Nat) : Syntax → Option Json
  | .null => some .null
  | .bool b => some (.bool b)
  | .number x => x.value?.map .number
  | .text s => s.map .text
  | .list xs =>
    match depth with
    | 0 => none
    | depth + 1 => (toItems? depth xs).map .list
  | .object fs =>
    match depth with
    | 0 => none
    | depth + 1 => (toFields? depth fs).map ofFields

/-- The values of a list of trees. -/
def toItems? (depth : Nat) : List Syntax → Option (List Json)
  | [] => some []
  | x :: xs => do
    let v ← toJson? depth x
    let vs ← toItems? depth xs
    pure (v :: vs)

/-- The values of a list of fields. -/
def toFields? (depth : Nat) : List (Option String × Syntax) → Option (List (String × Json))
  | [] => some []
  | (key, x) :: fs => do
    let k ← key
    let v ← toJson? depth x
    let vs ← toFields? depth fs
    pure ((k, v) :: vs)

end

end Syntax

end ServiceLinker.Json
