import ServiceLinker.Decimal.Binary64

/-!
# What a plain scalar means

A scalar without quotes may denote null, a truth value, an integer or a floating-point number;
anything else is a text. The writer uses the same rules to see which texts need quotes.
-/

namespace ServiceLinker.Yaml

open Decimal (Binary64)

/-- The meaning of a plain scalar. -/
inductive Resolved where
  | null
  | bool (value : Bool)
  | int (value : Int)
  | real (value : Binary64)
  /-- An infinity or no number at all. -/
  | nonFinite
  | text
  deriving DecidableEq

namespace Resolved

/-- The spellings of null. -/
def isNull (s : String) : Bool := ["null", "Null", "NULL", "~"].contains s

/-- The spellings of the truth values. -/
def bool? (s : String) : Option Bool :=
  if ["true", "True", "TRUE"].contains s then some true
  else if ["false", "False", "FALSE"].contains s then some false
  else none

/-- The value of a digit in a base up to sixteen. -/
def digit? (base : Nat) (c : Char) : Option Nat :=
  let n :=
    if '0' ≤ c ∧ c ≤ '9' then c.toNat - 48
    else if 'a' ≤ c ∧ c ≤ 'f' then c.toNat - 87
    else if 'A' ≤ c ∧ c ≤ 'F' then c.toNat - 55
    else base
  if n < base then some n else none

/-- The value of a row of digits, of which there must be one. -/
def natural? (base : Nat) (cs : List Char) : Option Nat :=
  if cs.isEmpty then none else cs.foldlM (fun n c => (digit? base c).map (base * n + ·)) 0

/-- Without a leading sign. -/
def unsigned : List Char → List Char
  | '+' :: cs | '-' :: cs => cs
  | cs => cs

/-- More than one digit, the first of them zero: such a row is a text. -/
def hasLeadingZero (cs : List Char) : Bool :=
  let ds := unsigned cs
  1 < ds.length && ds.head? = some '0' && ds.all Char.isDigit

/-- Digits behind the mark of a base. -/
def based? : List Char → Option Nat
  | '0' :: 'x' :: cs => natural? 16 cs
  | '0' :: 'o' :: cs => natural? 8 cs
  | '0' :: 'b' :: cs => natural? 2 cs
  | _ => none

/-- A natural in decimal or behind the mark of a base. -/
def magnitude? (cs : List Char) : Option Nat :=
  match based? cs with
  | some n => some n
  | none => if hasLeadingZero cs then none else natural? 10 cs

/-- An integer with an optional sign. -/
def int? (cs : List Char) : Option Int :=
  match cs with
  | '-' :: cs => (magnitude? cs).map fun n => -(n : Int)
  | '+' :: cs => (magnitude? cs).map fun n => (n : Int)
  | cs => (magnitude? cs).map fun n => (n : Int)

/-- An integer of at most 64 bits, or at most 128 bits, counting the sign. -/
def inWord (bits : Nat) (n : Int) : Bool :=
  -(Nat.pow 2 (bits - 1) : Int) ≤ n && n < (Nat.pow 2 bits : Int)

/-- The sign and the digits of an exponent, or zero if there is none. -/
def exponent? : List Char → Option Int
  | [] => some 0
  | c :: cs =>
    if c = 'e' || c = 'E' then
      match cs with
      | '-' :: ds => (natural? 10 ds).map fun n => -(n : Int)
      | '+' :: ds => (natural? 10 ds).map fun n => (n : Int)
      | ds => (natural? 10 ds).map fun n => (n : Int)
    else none

/-- Digits with an optional point and an optional exponent, at least one digit before or after
the point. -/
def decimal? (cs : List Char) : Option (Nat × Int) := do
  let whole := cs.takeWhile Char.isDigit
  let rest := cs.dropWhile Char.isDigit
  let (fraction, rest) := match rest with
    | '.' :: cs => (cs.takeWhile Char.isDigit, cs.dropWhile Char.isDigit)
    | cs => ([], cs)
  let digits ← natural? 10 (whole ++ fraction)
  let e ← exponent? rest
  pure (digits, e - fraction.length)

/-- A finite floating-point number. -/
def real? (cs : List Char) : Option Binary64 :=
  match cs with
  | '-' :: cs => (decimal? cs).bind fun (n, e) => Binary64.ofDecimal true n e
  | '+' :: cs => (decimal? cs).bind fun (n, e) => Binary64.ofDecimal false n e
  | cs => (decimal? cs).bind fun (n, e) => Binary64.ofDecimal false n e

/-- The spellings of the infinities and of no number. -/
def isNonFinite (s : String) : Bool :=
  [".inf", ".Inf", ".INF", "+.inf", "+.Inf", "+.INF", "-.inf", "-.Inf", "-.INF", ".nan", ".NaN",
    ".NAN"].contains s

/-- A floating-point number, finite or not. -/
def float? (s : String) : Option Resolved :=
  if isNonFinite s then some .nonFinite else (real? s.toList).map .real

/-- The meaning of a plain scalar. Integers beyond 128 bits are floating-point numbers. -/
def of (s : String) : Resolved :=
  if s.isEmpty || isNull s then .null
  else
    match bool? s with
    | some b => .bool b
    | none =>
      match (int? s.toList).filter (inWord 128) with
      | some n => .int n
      | none => if hasLeadingZero s.toList then .text else (float? s).getD .text

/-- A text that would not be read as a text without quotes. -/
def needsQuotes (s : String) : Bool :=
  match of s with
  | .text => hasLeadingZero s.toList
  | _ => true

end Resolved

end ServiceLinker.Yaml
