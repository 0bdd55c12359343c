/-! The fraction of pi in words of 32 bits, from which the cipher takes its first state. -/

namespace TokenAuth.Pi

/-- Adds up `scale / n - scale / (3 n³) + scale / (5 n⁵) - …`, for which `power` is the scale over
the next power of `n` and `k` the next odd number. -/
def arctanSum (square : Nat) : (terms : Nat) → (power k : Nat) → (sum : Int) → Int
  | 0, _, _, sum => sum
  | terms + 1, power, k, sum =>
    if power = 0 then sum
    else
      let term : Int := power / k
      arctanSum square terms (power / square) (k + 2) (if k % 4 = 1 then sum + term else sum - term)

/-- The arc tangent of `1 / n`, times `scale`. Each term is smaller than the one before by a factor
of at least four bits, so a quarter as many terms as there are bits exhaust it. -/
def arctan (scale n : Nat) : Int := arctanSum (n * n) (scale.log2 / 4 + 1) (scale / n) 1 0

/-- The fraction of π to `bits` binary places, by Machin's formula with spare places. -/
def fraction (bits : Nat) : Nat :=
  let scale := 1 <<< (bits + 64)
  let pi := 16 * arctan scale 5 - 4 * arctan scale 239
  (pi.toNat - 3 * scale) >>> 64

/-- The first `count` words of the fraction of π. -/
def words (count : Nat) : Array UInt32 :=
  let n := fraction (32 * count)
  Array.ofFn fun i : Fin count => UInt32.ofNat (n >>> (32 * (count - 1 - i.val)))

end TokenAuth.Pi
