import ServiceLinker.Decimal.Binary64

/-!
# The shortest decimal that reads back

Among the decimals that round to a given binary number, the one with the fewest digits, and of
those the nearest; an exact tie goes to the even digit. Every step compares naturals.
-/

namespace ServiceLinker.Decimal

/-- The decimal `digits · 10 ^ exponent`. -/
structure Scientific where
  digits : Nat
  exponent : Int
  deriving DecidableEq, Repr

namespace Scientific

/-- Trailing zeros move into the exponent; at most `fuel` of them. -/
def dropZeros : Nat → Scientific → Scientific
  | 0, d => d
  | fuel + 1, d =>
    if d.digits ≠ 0 ∧ d.digits % 10 = 0 then dropZeros fuel ⟨d.digits / 10, d.exponent + 1⟩ else d

end Scientific

/-- The reals that round to a positive number, in quarters of its last place: the number itself
is `4 · significand`, and the ends belong to the interval exactly when the significand is even. -/
structure Interval where
  low : Nat
  value : Nat
  high : Nat
  closed : Bool

/-- The rounding interval of a number other than zero. The gap below a power of two is half as
wide as the gap above it. -/
def Interval.of (x : Binary64) : Interval :=
  let m := x.significand
  let narrow := m = Nat.pow 2 52 ∧ Binary64.leastExponent < x.exponent
  ⟨if narrow then 4 * m - 1 else 4 * m - 2, 4 * m, 4 * m + 2, m % 2 = 0⟩

/-- The power of ten of the leading digit of `num / den`, which must be positive. -/
def leadingPower (num den : Nat) : Int :=
  if den ≤ num then Binary64.digitCount (num / den) - 1
  else
    let d := Binary64.digitCount (den / num)
    if den ≤ num * Nat.pow 10 (d - 1) then -((d : Int) - 1) else -(d : Int)

/-- The nearest decimal on the grid of the multiples of `10 ^ k` that lies in the interval, whose
unit is the fraction `unit`. -/
def onGrid (i : Interval) (unit : Nat × Nat) (k : Int) : Option Nat :=
  -- a multiple `c` of the step is compared with `n` quarters as `c * step` with `n * quarter`
  let step := if 0 ≤ k then Nat.pow 10 k.toNat * unit.2 else unit.2
  let quarter := if 0 ≤ k then unit.1 else unit.1 * Nat.pow 10 (-k).toNat
  let inside (c : Nat) : Bool :=
    if i.closed then i.low * quarter ≤ c * step && c * step ≤ i.high * quarter
    else i.low * quarter < c * step && c * step < i.high * quarter
  let below := i.value * quarter / step
  let above := below + 1
  let gapBelow := i.value * quarter - below * step
  let gapAbove := above * step - i.value * quarter
  match inside below, inside above with
  | true, true =>
    if gapBelow < gapAbove then some below
    else if gapAbove < gapBelow then some above
    else if below % 2 = 0 then some below else some above
  | true, false => some below
  | false, true => some above
  | false, false => none

/-- The first grid with a hit, starting with `n` digits and refining at most `fuel` times. -/
def firstGrid (i : Interval) (unit : Nat × Nat) (lead : Int) : Nat → Nat → Option Scientific
  | 0, _ => none
  | fuel + 1, n =>
    let k := lead + 1 - n
    match onGrid i unit k with
    | some c => some (Scientific.dropZeros 18 ⟨c, k⟩)
    | none => firstGrid i unit lead fuel (n + 1)

/-- The shortest decimal for the absolute value of a number. -/
def shortest (x : Binary64) : Scientific :=
  if x.significand = 0 then ⟨0, 0⟩
  else
    let unit : Nat × Nat :=
      if 2 ≤ x.exponent then (Nat.pow 2 (x.exponent - 2).toNat, 1)
      else (1, Nat.pow 2 (2 - x.exponent).toNat)
    let v := x.toFraction
    (firstGrid (Interval.of x) unit (leadingPower v.1 v.2) 17 1).getD ⟨0, 0⟩

/-- Where the text of a number turns from positional to exponent notation. The positional form
is used while the decimal point stands at most `maxPoint` digits to the right of the first digit
and fewer than `minPoint` zeros would follow the point. -/
structure NumberFormat where
  maxPoint : Int
  minPoint : Int

def zeros (n : Int) : List Char := List.replicate n.toNat '0'

/-- The text of a non-negative decimal. A whole number keeps one digit after the point; an
exponent has neither plus sign nor padding. -/
def NumberFormat.unsigned (f : NumberFormat) (d : Scientific) : List Char :=
  let ds := Nat.toDigits 10 d.digits
  let point : Int := ds.length + d.exponent
  if 0 ≤ d.exponent && point ≤ f.maxPoint then ds ++ zeros d.exponent ++ ['.', '0']
  else if 0 < point && point ≤ f.maxPoint then
    ds.take point.toNat ++ ['.'] ++ ds.drop point.toNat
  else if f.minPoint < point && point ≤ 0 then ['0', '.'] ++ zeros (-point) ++ ds
  else
    let power := (toString (point - 1)).toList
    match ds with
    | [c] => [c] ++ ['e'] ++ power
    | c :: cs => [c, '.'] ++ cs ++ ['e'] ++ power
    | [] => []

/-- The text of a binary number: its sign, zero's included, and its shortest decimal. -/
def NumberFormat.render (f : NumberFormat) (x : Binary64) : List Char :=
  let body := f.unsigned (shortest x)
  if x.negative then '-' :: body else body

/-- Reports and recordings write up to sixteen digits before the point and up to four zeros after
it. -/
def reportNumber : NumberFormat := ⟨16, -5⟩

end ServiceLinker.Decimal
