/-!
# Decimal digits

Rows of decimal digits as naturals, and naturals as rows of digits of a least length.
-/

namespace ServiceLinker.Text

/-- The value of a decimal digit. -/
def digitValue (c : Char) : Nat := c.toNat - '0'.toNat

/-- The value of a row of decimal digits. -/
def digitsValue (ds : List Char) : Nat := ds.foldl (fun n c => 10 * n + digitValue c) 0

/-- A digit at the end counts ones, and what stands before it tens. -/
theorem digitsValue_append_singleton (ds : List Char) (c : Char) :
    digitsValue (ds ++ [c]) = 10 * digitsValue ds + digitValue c := by
  simp [digitsValue]

/-- A row of digits behind as many zeros as make up the width. -/
def padZeros (width : Nat) (ds : List Char) : List Char :=
  List.replicate (width - ds.length) '0' ++ ds

/-- A natural in decimal with at least `width` digits. -/
def padded (width n : Nat) : List Char := padZeros width (Nat.toDigits 10 n)

example : padded 4 31 = ['0', '0', '3', '1'] := by cbv
example : digitsValue ['0', '4', '2'] = 42 := by decide

end ServiceLinker.Text
