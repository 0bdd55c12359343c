import TokenAuth.Text.Bytes

/-! Bytes in hexadecimal. -/

namespace TokenAuth.Hex

/-- The lower-case hexadecimal digit of a number below sixteen. -/
def digit (n : Nat) : UInt8 := if n < 10 then UInt8.ofNat (0x30 + n) else UInt8.ofNat (0x57 + n)

/-- The number that a hexadecimal digit of either case writes. -/
def value? (b : UInt8) : Option Nat :=
  let n := b.toNat
  if 0x30 ≤ n ∧ n ≤ 0x39 then some (n - 0x30)
  else if 0x61 ≤ n ∧ n ≤ 0x66 then some (n - 0x57)
  else if 0x41 ≤ n ∧ n ≤ 0x46 then some (n - 0x37)
  else none

theorem value?_digit {n : Nat} (h : n < 16) : value? (digit n) = some n := by
  revert n; decide

/-- Two digits a byte, the high one first. -/
def encode (bs : Bytes) : Bytes :=
  bs.flatMap fun b => [digit (b.toNat / 16), digit (b.toNat % 16)]

def decode? : Bytes → Option Bytes
  | [] => some []
  | hi :: lo :: rest => do
    let hi ← value? hi
    let lo ← value? lo
    let bytes ← decode? rest
    return UInt8.ofNat (16 * hi + lo) :: bytes
  | _ => none

theorem decode?_encode (bs : Bytes) : decode? (encode bs) = some bs := by
  induction bs with
  | nil => rfl
  | cons b rest ih =>
    have hhi : b.toNat / 16 < 16 := by have := b.toNat_lt; omega
    have hlo : b.toNat % 16 < 16 := by omega
    have hb : UInt8.ofNat (16 * (b.toNat / 16) + b.toNat % 16) = b := by
      rw [Nat.div_add_mod]; exact UInt8.ofNat_toNat
    have hstep : encode (b :: rest) =
        digit (b.toNat / 16) :: digit (b.toNat % 16) :: encode rest := rfl
    rw [hstep, decode?, value?_digit hhi, value?_digit hlo, ih]
    exact congrArg (fun x => some (x :: rest)) hb

/-- The hexadecimal text of bytes. -/
def text (bs : Bytes) : String := ofAscii (encode bs)

end TokenAuth.Hex
