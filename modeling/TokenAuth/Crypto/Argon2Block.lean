import TokenAuth.Crypto.Blake2b

/-! Blocks of 1024 bytes and the permutation that compresses two of them into one. -/

namespace TokenAuth.Argon2

/-- Sixteen words: a row of a block. -/
structure Row where
  w0 : UInt64
  w1 : UInt64
  w2 : UInt64
  w3 : UInt64
  w4 : UInt64
  w5 : UInt64
  w6 : UInt64
  w7 : UInt64
  w8 : UInt64
  w9 : UInt64
  w10 : UInt64
  w11 : UInt64
  w12 : UInt64
  w13 : UInt64
  w14 : UInt64
  w15 : UInt64
deriving DecidableEq

namespace Row

def zero : Row := ⟨0, 0, 0, 0, 0, 0, 0, 0, 0, 0, 0, 0, 0, 0, 0, 0⟩

def xor (x y : Row) : Row :=
  ⟨x.w0 ^^^ y.w0, x.w1 ^^^ y.w1, x.w2 ^^^ y.w2, x.w3 ^^^ y.w3, x.w4 ^^^ y.w4, x.w5 ^^^ y.w5,
   x.w6 ^^^ y.w6, x.w7 ^^^ y.w7, x.w8 ^^^ y.w8, x.w9 ^^^ y.w9, x.w10 ^^^ y.w10, x.w11 ^^^ y.w11,
   x.w12 ^^^ y.w12, x.w13 ^^^ y.w13, x.w14 ^^^ y.w14, x.w15 ^^^ y.w15⟩

def toList (x : Row) : List UInt64 :=
  [x.w0, x.w1, x.w2, x.w3, x.w4, x.w5, x.w6, x.w7, x.w8, x.w9, x.w10, x.w11, x.w12, x.w13, x.w14,
   x.w15]

def ofList : List UInt64 → Row
  | [w0, w1, w2, w3, w4, w5, w6, w7, w8, w9, w10, w11, w12, w13, w14, w15] =>
    ⟨w0, w1, w2, w3, w4, w5, w6, w7, w8, w9, w10, w11, w12, w13, w14, w15⟩
  | _ => zero

end Row

/-- Sum of two words and twice the product of their low halves. -/
@[inline]
def addMul (x y : UInt64) : UInt64 :=
  x + y + 2 * (x &&& 0xFFFFFFFF) * (y &&& 0xFFFFFFFF)

@[inline]
def quarter (a b c d : UInt64) : UInt64 × UInt64 × UInt64 × UInt64 :=
  let a := addMul a b
  let d := Blake2b.rotr (d ^^^ a) 32
  let c := addMul c d
  let b := Blake2b.rotr (b ^^^ c) 24
  let a := addMul a b
  let d := Blake2b.rotr (d ^^^ a) 16
  let c := addMul c d
  let b := Blake2b.rotr (b ^^^ c) 63
  (a, b, c, d)

/-- Mixes the words of a row: by columns, then by diagonals, of the row as a square. -/
def Row.permute (x : Row) : Row :=
  let ⟨w0, w1, w2, w3, w4, w5, w6, w7, w8, w9, w10, w11, w12, w13, w14, w15⟩ := x
  let (w0, w4, w8, w12) := quarter w0 w4 w8 w12
  let (w1, w5, w9, w13) := quarter w1 w5 w9 w13
  let (w2, w6, w10, w14) := quarter w2 w6 w10 w14
  let (w3, w7, w11, w15) := quarter w3 w7 w11 w15
  let (w0, w5, w10, w15) := quarter w0 w5 w10 w15
  let (w1, w6, w11, w12) := quarter w1 w6 w11 w12
  let (w2, w7, w8, w13) := quarter w2 w7 w8 w13
  let (w3, w4, w9, w14) := quarter w3 w4 w9 w14
  ⟨w0, w1, w2, w3, w4, w5, w6, w7, w8, w9, w10, w11, w12, w13, w14, w15⟩

/-- A block of 1024 bytes, as eight rows. -/
structure Block where
  r0 : Row
  r1 : Row
  r2 : Row
  r3 : Row
  r4 : Row
  r5 : Row
  r6 : Row
  r7 : Row
deriving DecidableEq

namespace Block

def zero : Block := ⟨.zero, .zero, .zero, .zero, .zero, .zero, .zero, .zero⟩

def xor (x y : Block) : Block :=
  ⟨x.r0.xor y.r0, x.r1.xor y.r1, x.r2.xor y.r2, x.r3.xor y.r3, x.r4.xor y.r4, x.r5.xor y.r5,
   x.r6.xor y.r6, x.r7.xor y.r7⟩

def permuteRows (x : Block) : Block :=
  ⟨x.r0.permute, x.r1.permute, x.r2.permute, x.r3.permute, x.r4.permute, x.r5.permute,
   x.r6.permute, x.r7.permute⟩

/-- Exchanges rows and columns of pairs of words. -/
def transpose (x : Block) : Block :=
  let ⟨r0, r1, r2, r3, r4, r5, r6, r7⟩ := x
  ⟨⟨r0.w0, r0.w1, r1.w0, r1.w1, r2.w0, r2.w1, r3.w0, r3.w1, r4.w0, r4.w1, r5.w0, r5.w1, r6.w0,
    r6.w1, r7.w0, r7.w1⟩,
   ⟨r0.w2, r0.w3, r1.w2, r1.w3, r2.w2, r2.w3, r3.w2, r3.w3, r4.w2, r4.w3, r5.w2, r5.w3, r6.w2,
    r6.w3, r7.w2, r7.w3⟩,
   ⟨r0.w4, r0.w5, r1.w4, r1.w5, r2.w4, r2.w5, r3.w4, r3.w5, r4.w4, r4.w5, r5.w4, r5.w5, r6.w4,
    r6.w5, r7.w4, r7.w5⟩,
   ⟨r0.w6, r0.w7, r1.w6, r1.w7, r2.w6, r2.w7, r3.w6, r3.w7, r4.w6, r4.w7, r5.w6, r5.w7, r6.w6,
    r6.w7, r7.w6, r7.w7⟩,
   ⟨r0.w8, r0.w9, r1.w8, r1.w9, r2.w8, r2.w9, r3.w8, r3.w9, r4.w8, r4.w9, r5.w8, r5.w9, r6.w8,
    r6.w9, r7.w8, r7.w9⟩,
   ⟨r0.w10, r0.w11, r1.w10, r1.w11, r2.w10, r2.w11, r3.w10, r3.w11, r4.w10, r4.w11, r5.w10,
    r5.w11, r6.w10, r6.w11, r7.w10, r7.w11⟩,
   ⟨r0.w12, r0.w13, r1.w12, r1.w13, r2.w12, r2.w13, r3.w12, r3.w13, r4.w12, r4.w13, r5.w12,
    r5.w13, r6.w12, r6.w13, r7.w12, r7.w13⟩,
   ⟨r0.w14, r0.w15, r1.w14, r1.w15, r2.w14, r2.w15, r3.w14, r3.w15, r4.w14, r4.w15, r5.w14,
    r5.w15, r6.w14, r6.w15, r7.w14, r7.w15⟩⟩

def toList (x : Block) : List UInt64 :=
  x.r0.toList ++ x.r1.toList ++ x.r2.toList ++ x.r3.toList ++ x.r4.toList ++ x.r5.toList ++
    x.r6.toList ++ x.r7.toList

def ofList (ws : List UInt64) : Block :=
  let row (n : Nat) : Row := Row.ofList ((ws.drop (16 * n)).take 16)
  ⟨row 0, row 1, row 2, row 3, row 4, row 5, row 6, row 7⟩

/-- Compresses two blocks into one. -/
def compress (x y : Block) : Block :=
  let sum := x.xor y
  sum.xor sum.permuteRows.transpose.permuteRows.transpose

end Block

end TokenAuth.Argon2
