import ServiceLinker.Json.Basic
import ServiceLinker.Text.Digits

/-!
# Numerals of JSON

A numeral is read into 64 bits as far as it goes: a whole number that fits stays an integer;
anything else becomes a floating-point number, computed from the digits that fit into 64 bits and
one scaling by a power of ten.
-/

namespace ServiceLinker.Json

open Decimal (Binary64)
open Text (digitValue digitsValue)

/-- The parts of a numeral. -/
structure Numeral where
  negative : Bool
  /-- The digits before the point. -/
  whole : List Char
  /-- The digits after the point, if there is one. -/
  fraction : Option (List Char)
  /-- The sign and the digits of the exponent, if there is one. -/
  exponent : Option (Bool × List Char)

/-- Naturals below this fit into 64 bits. -/
def wordLimit : Nat := Nat.pow 2 64

/-- Digits are taken while the number fits into a word; the rest is returned. -/
def takeDigits (n : Nat) : List Char → Nat × List Char
  | [] => (n, [])
  | c :: cs =>
    let m := 10 * n + digitValue c
    if m < wordLimit then takeDigits m cs else (n, c :: cs)

/-- A power of ten of the format. -/
def tenPower (n : Nat) : Binary64 := (Binary64.ofDecimal false 1 n).getD (.zero false)

/-- Scaling by `10 ^ exponent` in steps of at most `10 ^ 308`; nothing if the result is too large.
Three steps down reach zero from any word, so the fuel of `scale` is never used up. -/
def scaleSteps : Nat → Binary64 → Int → Option Binary64
  | 0, x, _ => some x
  | fuel + 1, x, e =>
    if 308 < e then if x.significand = 0 then some x else none
    else if 0 ≤ e then x.mul (tenPower e.toNat)
    else if -308 ≤ e then x.div (tenPower (-e).toNat)
    else if x.significand = 0 then some x
    else (x.div (tenPower 308)).bind fun y => scaleSteps fuel y (e + 308)

/-- The floating-point number `± n · 10 ^ exponent` of a word `n`. -/
def scale (negative : Bool) (n : Nat) (e : Int) : Option Binary64 :=
  (Binary64.ofFraction false n 1).bind fun x =>
    (scaleSteps 8 x e).map fun y => if negative then y.neg else y

/-- Exponents are 32-bit words. -/
def exponentLimit : Nat := Nat.pow 2 31

/-- Keeps an exponent in the range of 32-bit words. -/
def clampExponent (e : Int) : Int := max (-(exponentLimit : Int)) (min e (exponentLimit - 1))

/-- Applies the written exponent to a word with the exponent reached so far. An exponent too long
for a word makes zero, unless it is positive and the word is not zero. -/
def applyExponent (negative : Bool) (n : Nat) (e : Int) :
    Option (Bool × List Char) → Option Binary64
  | none => scale negative n e
  | some (negativeExponent, ds) =>
    let x := digitsValue ds
    if exponentLimit ≤ x then
      if n ≠ 0 && !negativeExponent then none else some (.zero negative)
    else scale negative n (clampExponent (if negativeExponent then e - x else e + x))

/-- The number that a numeral denotes; nothing if it is too large. -/
def Numeral.value? (x : Numeral) : Option Number :=
  let w := takeDigits 0 x.whole
  let skipped : Int := w.2.length
  match x.fraction, x.exponent with
  | none, none =>
    if w.2 ≠ [] then (scale x.negative w.1 skipped).map .real
    else if !x.negative then some (.int w.1)
    else if w.1 ≠ 0 && w.1 ≤ Nat.pow 2 63 then some (.int (-(w.1 : Int)))
    else (scale true w.1 0).map .real
  | none, some e => (applyExponent x.negative w.1 skipped (some e)).map .real
  | some ds, e =>
    let f := takeDigits w.1 ds
    let used : Int := ds.length - f.2.length
    (applyExponent x.negative f.1 (skipped - used) e).map .real

end ServiceLinker.Json
