/-!
# Finite binary floating-point numbers

A finite number of the 64-bit binary format as a sign, a natural significand and a power of two.
All arithmetic is exact arithmetic on naturals followed by one rounding to the nearest number
of the format, ties to the even significand.
-/

namespace ServiceLinker.Decimal

/-- The number `± significand · 2 ^ exponent`. A zero has exponent zero; every other number has
the exponent that makes its significand as large as the format allows. -/
structure Binary64 where
  negative : Bool
  significand : Nat
  exponent : Int
  deriving DecidableEq, Repr

namespace Binary64

/-- The significands of the format are below this. -/
def significandLimit : Nat := Nat.pow 2 53

/-- The least exponent of the format. -/
def leastExponent : Int := -1074

/-- The greatest exponent of the format. -/
def greatestExponent : Int := 971

/-- Zero with either sign. -/
def zero (negative : Bool) : Binary64 := ⟨negative, 0, 0⟩

/-- The quotient rounded to the nearest natural, a half to the even one. -/
def roundDiv (num den : Nat) : Nat :=
  let q := num / den
  let r := num % den
  if 2 * r < den then q
  else if den < 2 * r then q + 1
  else if q % 2 = 0 then q else q + 1

/-- The fraction `num / den` divided by `2 ^ e`, again as a fraction. -/
def scaleDown (num den : Nat) (e : Int) : Nat × Nat :=
  if 0 ≤ e then (num, den * Nat.pow 2 e.toNat) else (num * Nat.pow 2 (-e).toNat, den)

/-- The exponent with which `num / den` has a significand of full length. -/
def fullExponent (num den : Nat) : Int :=
  let e : Int := Nat.log2 num - Nat.log2 den - 52
  let s := scaleDown num den e
  if s.1 / s.2 < Nat.pow 2 52 then e - 1 else e

/-- The number of the format nearest to `± num / den`; nothing if it is beyond the greatest. -/
def ofFraction (negative : Bool) (num den : Nat) : Option Binary64 :=
  if num = 0 then some (zero negative)
  else
    let e := max (fullExponent num den) leastExponent
    let s := scaleDown num den e
    let m := roundDiv s.1 s.2
    let r : Nat × Int := if m = significandLimit then (Nat.pow 2 52, e + 1) else (m, e)
    if greatestExponent < r.2 then none
    else if r.1 = 0 then some (zero negative)
    else some ⟨negative, r.1, r.2⟩

/-- The absolute value as a fraction. -/
def toFraction (x : Binary64) : Nat × Nat :=
  if 0 ≤ x.exponent then (x.significand * Nat.pow 2 x.exponent.toNat, 1)
  else (x.significand, Nat.pow 2 (-x.exponent).toNat)

/-- The opposite number. -/
def neg (x : Binary64) : Binary64 := { x with negative := !x.negative }

/-- The rounded product. -/
def mul (x y : Binary64) : Option Binary64 :=
  let a := x.toFraction
  let b := y.toFraction
  ofFraction (x.negative != y.negative) (a.1 * b.1) (a.2 * b.2)

/-- The rounded quotient by a number other than zero. -/
def div (x y : Binary64) : Option Binary64 :=
  let a := x.toFraction
  let b := y.toFraction
  ofFraction (x.negative != y.negative) (a.1 * b.2) (a.2 * b.1)

/-- The number of decimal digits of a natural. -/
def digitCount (n : Nat) : Nat := (Nat.toDigits 10 n).length

/-- The number of the format nearest to `± digits · 10 ^ exponent`; nothing if it is beyond the
greatest. Decimals far outside the range of the format are settled by their magnitude alone. -/
def ofDecimal (negative : Bool) (digits : Nat) (exponent : Int) : Option Binary64 :=
  if digits = 0 then some (zero negative)
  else
    let magnitude : Int := digitCount digits + exponent
    if 310 < magnitude then none
    else if magnitude < -330 then some (zero negative)
    else if 0 ≤ exponent then ofFraction negative (digits * Nat.pow 10 exponent.toNat) 1
    else ofFraction negative digits (Nat.pow 10 (-exponent).toNat)

example : ofDecimal false 1 0 = some ⟨false, Nat.pow 2 52, -52⟩ := by decide +kernel
example : ofDecimal false 5 (-324) = some ⟨false, 1, -1074⟩ := by decide +kernel
example : ofDecimal false 1 309 = none := by decide +kernel

end Binary64

end ServiceLinker.Decimal
