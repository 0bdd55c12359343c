import TokenAuth.Text.Shortest

/-! Floats, given by their patterns of 64 bits: their texts without an exponent, and rounding. -/

namespace TokenAuth

namespace Decimal

/-- All digits of a decimal number; one without a fraction has no point. -/
def positional (x : Decimal) : String :=
  let count : Int := x.digits.length
  if x.point ≤ 0 then
    "0." ++ Digits.text (Digits.zeros (-x.point).toNat ++ x.digits)
  else if count ≤ x.point then
    Digits.text (x.digits ++ Digits.zeros (x.point - count).toNat)
  else Digits.text (x.digits.take x.point.toNat) ++ "." ++ Digits.text (x.digits.drop x.point.toNat)

end Decimal

namespace Binary64

def isNegative (bits : UInt64) : Bool := bits >>> 63 == 1

/-- Whether the pattern writes no finite number. -/
def isSpecial (bits : UInt64) : Bool := (bits >>> 52) &&& 0x7FF == 0x7FF

def isNaN (bits : UInt64) : Bool := isSpecial bits && bits &&& 0xFFFFFFFFFFFFF != 0

/-- The fewest digits that read back, filled up with zeros. -/
def text (bits : UInt64) : String :=
  if isNaN bits then "NaN"
  else
    (if isNegative bits then "-" else "") ++
      if isSpecial bits then "inf"
      else
        match Binary.ofBits? bits with
        | none => "0"
        | some x => x.shortest.positional

/-- The magnitude rounded to a whole number, a half going up. -/
def roundedMagnitude (bits : UInt64) : Nat :=
  match Binary.ofBits? bits with
  | none => 0
  | some x =>
    let num := x.significand <<< x.exponent.toNat
    let den := 1 <<< (-x.exponent).toNat
    (2 * num + den) / (2 * den)

/-- The nearest whole number, a half going away from zero, brought between two bounds. What is
no number counts as zero. -/
def roundWithin (low high : Int) (bits : UInt64) : Int :=
  if isNaN bits then 0
  else
    let n : Int := if isNegative bits then -(roundedMagnitude bits : Int) else roundedMagnitude bits
    max low (min high n)

end Binary64

end TokenAuth
