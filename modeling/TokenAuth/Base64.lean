import TokenAuth.Text.Bytes

/-!
Base64 in its standard and its URL alphabet. Reading refuses what writing would not produce, so
every byte string has one text with padding and one without.
-/

namespace TokenAuth.Base64

inductive Alphabet
  | standard
  | url
  | bcrypt
deriving DecidableEq

/-- Whether a last group of fewer than four symbols is filled up with equals signs. -/
inductive Padding
  | full
  | none
deriving DecidableEq

namespace Alphabet

/-- The symbol of a value below 64, for the alphabets that start with letters and digits. -/
def lettersFirst (plus slash : UInt8) (n : Nat) : UInt8 :=
  if n < 26 then UInt8.ofNat (0x41 + n)
  else if n < 52 then UInt8.ofNat (0x47 + n)
  else if n < 62 then UInt8.ofNat (n - 4)
  else if n = 62 then plus
  else slash

def symbol (alphabet : Alphabet) (n : Nat) : UInt8 :=
  match alphabet with
  | standard => lettersFirst 0x2B 0x2F n
  | url => lettersFirst 0x2D 0x5F n
  | bcrypt =>
    if n < 2 then UInt8.ofNat (0x2E + n)
    else if n < 28 then UInt8.ofNat (0x3F + n)
    else if n < 54 then UInt8.ofNat (0x45 + n)
    else UInt8.ofNat (n - 6)

def lettersFirstValue? (plus slash : UInt8) (b : UInt8) : Option Nat :=
  let n := b.toNat
  if 0x41 ≤ n ∧ n ≤ 0x5A then some (n - 0x41)
  else if 0x61 ≤ n ∧ n ≤ 0x7A then some (n - 0x47)
  else if 0x30 ≤ n ∧ n ≤ 0x39 then some (n + 4)
  else if b = plus then some 62
  else if b = slash then some 63
  else none

/-- The value of a symbol. -/
def value? (alphabet : Alphabet) (b : UInt8) : Option Nat :=
  match alphabet with
  | standard => lettersFirstValue? 0x2B 0x2F b
  | url => lettersFirstValue? 0x2D 0x5F b
  | bcrypt =>
    let n := b.toNat
    if 0x2E ≤ n ∧ n ≤ 0x2F then some (n - 0x2E)
    else if 0x41 ≤ n ∧ n ≤ 0x5A then some (n - 0x3F)
    else if 0x61 ≤ n ∧ n ≤ 0x7A then some (n - 0x45)
    else if 0x30 ≤ n ∧ n ≤ 0x39 then some (n + 6)
    else none

theorem value?_symbol (alphabet : Alphabet) {n : Nat} (h : n < 64) :
    alphabet.value? (alphabet.symbol n) = some n := by
  revert n
  cases alphabet <;> decide

theorem symbol_of_value?_eq_some (alphabet : Alphabet) {b : UInt8} {n : Nat}
    (h : alphabet.value? b = some n) : n < 64 ∧ alphabet.symbol n = b := by
  have key : ∀ k < 256, ∀ m, alphabet.value? (UInt8.ofNat k) = some m →
      m < 64 ∧ alphabet.symbol m = UInt8.ofNat k := by
    cases alphabet <;> decide +kernel
  have := key b.toNat b.toNat_lt n
  rw [UInt8.ofNat_toNat] at this
  exact this h

end Alphabet

/-- The byte that fills up a last group. -/
def pad : UInt8 := 0x3D

inductive Fault
  | symbol (byte : UInt8) (offset : Nat)
  | lastSymbol (byte : UInt8) (offset : Nat)
  | length (offset : Nat)
  | padding
deriving DecidableEq

namespace Fault

def message : Fault → String
  | symbol byte offset => s!"Invalid symbol {byte.toNat}, offset {offset}."
  | lastSymbol byte offset => s!"Invalid last symbol {byte.toNat}, offset {offset}."
  | length offset => s!"Invalid input length: {offset}"
  | padding => "Invalid padding"

end Fault

/-- Three bytes make four symbols; one or two bytes at the end make two or three. -/
def encode (alphabet : Alphabet) (padding : Padding) : Bytes → Bytes
  | [] => []
  | [a] =>
    let n := a.toNat
    [alphabet.symbol (n / 4), alphabet.symbol (n % 4 * 16)] ++
      if padding = .full then [pad, pad] else []
  | [a, b] =>
    let n := 256 * a.toNat + b.toNat
    [alphabet.symbol (n / 1024), alphabet.symbol (n / 16 % 64), alphabet.symbol (n % 16 * 4)] ++
      if padding = .full then [pad] else []
  | a :: b :: c :: rest =>
    let n := 65536 * a.toNat + 256 * b.toNat + c.toNat
    alphabet.symbol (n / 262144) :: alphabet.symbol (n / 4096 % 64) ::
      alphabet.symbol (n / 64 % 64) :: alphabet.symbol (n % 64) :: encode alphabet padding rest

def valueAt (alphabet : Alphabet) (b : UInt8) (offset : Nat) : Except Fault Nat :=
  match alphabet.value? b with
  | some n => .ok n
  | none => .error (.symbol b offset)

/-- The bytes of four symbol values. -/
def group (a b c d : Nat) : Bytes :=
  [UInt8.ofNat (4 * a + b / 16), UInt8.ofNat (16 * (b % 16) + c / 4),
    UInt8.ofNat (64 * (c % 4) + d)]

/-- The symbols of a last group and the number of padding bytes after them. Padding stands only
after two or three symbols, and nothing but padding stands after it. -/
def lastSymbols (alphabet : Alphabet) (offset : Nat) :
    (index : Nat) → (padded : Nat) → Bytes → Except Fault (List (UInt8 × Nat) × Nat)
  | _, padded, [] => .ok ([], padded)
  | index, padded, b :: rest =>
    if b = pad then
      if index < 2 then .error (.symbol b (offset + index))
      else lastSymbols alphabet offset (index + 1) (padded + 1) rest
    else if 0 < padded then .error (.symbol pad (offset + (index - padded)))
    else do
      let n ← valueAt alphabet b (offset + index)
      let (symbols, padded) ← lastSymbols alphabet offset (index + 1) padded rest
      return ((b, n) :: symbols, padded)

/-- The bytes of a last group. The bits that make no whole byte are zero. -/
def decodeLast (alphabet : Alphabet) (padding : Padding) (offset : Nat) (bs : Bytes) :
    Except Fault Bytes := do
  let (symbols, padded) ← lastSymbols alphabet offset 0 0 bs
  if symbols.length < 2 then .error (.length (offset + symbols.length))
  else if padding = .full ∧ (symbols.length + padded) % 4 ≠ 0 then .error .padding
  else if padding = .none ∧ 0 < padded then .error .padding
  else
    match symbols with
    | [(_, a), (last, b)] =>
      if b % 16 = 0 then .ok [UInt8.ofNat (4 * a + b / 16)]
      else .error (.lastSymbol last (offset + 1))
    | [(_, a), (_, b), (last, c)] =>
      if c % 4 = 0 then .ok ((group a b c 0).take 2)
      else .error (.lastSymbol last (offset + 2))
    | (_, a) :: (_, b) :: (_, c) :: (_, d) :: _ => .ok (group a b c d)
    | _ => .ok []

def decodeFrom (alphabet : Alphabet) (padding : Padding) (offset : Nat) :
    Bytes → Except Fault Bytes
  | [] => .ok []
  | a :: b :: c :: d :: e :: rest => do
    let a ← valueAt alphabet a offset
    let b ← valueAt alphabet b (offset + 1)
    let c ← valueAt alphabet c (offset + 2)
    let d ← valueAt alphabet d (offset + 3)
    let bytes ← decodeFrom alphabet padding (offset + 4) (e :: rest)
    return group a b c d ++ bytes
  | bs => decodeLast alphabet padding offset bs

/-- The bytes of a Base64 text. A lone byte after whole groups is looked at first. -/
def decode (alphabet : Alphabet) (padding : Padding) (bs : Bytes) : Except Fault Bytes :=
  match bs.getLast? with
  | some b =>
    if bs.length % 4 = 1 ∧ b ≠ pad ∧ (alphabet.value? b).isNone then
      .error (.symbol b (bs.length - 1))
    else decodeFrom alphabet padding 0 bs
  | none => .ok []

def decode? (alphabet : Alphabet) (padding : Padding) (bs : Bytes) : Option Bytes :=
  (decode alphabet padding bs).toOption

end TokenAuth.Base64
