import TokenAuth.Text.Digits

/-!
The fewest decimal digits that read back as a given binary64 number. On each decimal grid the two
neighbours of the number are tried; the coarsest grid with a neighbour in the rounding interval
gives the digits.
-/

namespace TokenAuth

/-- A positive decimal number: `0.d₁d₂… × 10 ^ point` with digits that do not end in zero. -/
structure Decimal where
  digits : List Digit
  point : Int
deriving DecidableEq

namespace Decimal

/-- Drops the zeros at the end. -/
def trimmed (digits : List Digit) : List Digit :=
  (digits.reverse.dropWhile fun d => d.val == 0).reverse

/-- The number `n × 10 ^ grid`. -/
def ofGrid (n : Nat) (grid : Int) : Decimal :=
  let digits := Digits.ofNat n
  ⟨trimmed digits, grid + digits.length⟩

end Decimal

/-- A binary64 number above zero: it is `significand × 2 ^ exponent`, and the numbers that round
to it start a half or a quarter of a unit below it. -/
structure Binary where
  significand : Nat
  exponent : Int
  quarterBelow : Bool

namespace Binary

/-- The magnitude that a finite pattern writes, if it is not zero. -/
def ofBits? (bits : UInt64) : Option Binary :=
  let fraction := (bits &&& 0xFFFFFFFFFFFFF).toNat
  let biased := ((bits >>> 52) &&& 0x7FF).toNat
  if biased = 0 then
    if fraction = 0 then none else some ⟨fraction, -1074, false⟩
  else some ⟨fraction + 0x10000000000000, (biased : Int) - 1075, fraction == 0 && 1 < biased⟩

/-- `10 ^ magnitude ≤ significand × 2 ^ exponent < 10 ^ (magnitude + 1)`. -/
def magnitude (x : Binary) : Int :=
  let num := x.significand <<< x.exponent.toNat
  let den := 1 <<< (-x.exponent).toNat
  if den ≤ num then (Digits.ofNat (num / den)).length - 1
  else -((Digits.ofNat ((den - 1) / num)).length : Int)

/-- The nearest member of the grid `10 ^ grid` that rounds to `x`; of two equally near ones the
even one. -/
def onGrid? (x : Binary) (grid : Int) : Option Nat :=
  let shift := x.exponent - 2
  let up := Nat.pow 10 (-grid).toNat <<< shift.toNat
  let unit := Nat.pow 10 grid.toNat <<< (-shift).toNat
  let middle := 4 * x.significand * up
  let low := middle - (if x.quarterBelow then 1 else 2) * up
  let high := middle + 2 * up
  let closed := x.significand % 2 = 0
  let within (n : Nat) : Bool :=
    if closed then low ≤ n * unit && n * unit ≤ high else low < n * unit && n * unit < high
  let below := middle / unit
  let above := below + 1
  let excess := 2 * (middle % unit)
  let belowFirst := excess < unit || (excess == unit && below % 2 == 0)
  let nearer := if belowFirst then below else above
  let farther := if belowFirst then above else below
  if within nearer then some nearer else if within farther then some farther else none

/-- The fewest digits that read back as `x`. -/
def shortest (x : Binary) : Decimal :=
  let top := x.magnitude
  let grids := (List.range 17).map fun (n : Nat) => top - (n : Int)
  match grids.findSome? fun grid => (x.onGrid? grid).map fun n => Decimal.ofGrid n grid with
  | some decimal => decimal
  | none => Decimal.ofGrid 0 0

end Binary

end TokenAuth
