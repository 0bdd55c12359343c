import TokenAuth.Json.Numeral
import TokenAuth.Text.Hex

/-! The lexemes of JSON, and the escapes inside its texts. -/

namespace TokenAuth.Json

/-- A lexeme of JSON. A text keeps what stands between its quotes, escapes included. -/
inductive Token
  | openArray
  | closeArray
  | openObject
  | closeObject
  | comma
  | colon
  | null
  | bool (b : Bool)
  | number (n : Numeral)
  | text (raw : Bytes)

/-- The blanks between lexemes. -/
def isGap (b : UInt8) : Bool := b == 0x20 || b == 0x0A || b == 0x0D || b == 0x09

/-- The bytes that may follow a backslash, other than the `u` of a code unit. -/
def isEscapeLetter (b : UInt8) : Bool :=
  b == 0x22 || b == 0x5C || b == 0x2F || b == 0x62 || b == 0x66 || b == 0x6E || b == 0x72 ||
    b == 0x74

/-- The four digits of a code unit at the start of a byte string, and what follows them. -/
def takeUnit? : Bytes → Option (Nat × Bytes)
  | a :: b :: c :: d :: rest => do
    let a ← Hex.value? a
    let b ← Hex.value? b
    let c ← Hex.value? c
    let d ← Hex.value? d
    return (4096 * a + 256 * b + 16 * c + d, rest)
  | _ => none

/-- Reads on from inside a text to its closing quote. Control bytes and unknown escapes break
it. -/
def closeText? (read : Bytes) : Bytes → Option (Bytes × Bytes)
  | [] => none
  | b :: rest =>
    if b = 0x22 then some (read.reverse, rest)
    else if b < 0x20 then none
    else if b ≠ 0x5C then closeText? (b :: read) rest
    else
      match rest with
      | [] => none
      | e :: rest =>
        if isEscapeLetter e then closeText? (e :: b :: read) rest
        else if e = 0x75 ∧ (takeUnit? rest).isSome then closeText? (e :: b :: read) rest
        else none

theorem length_closeText? {read bs raw rest : Bytes} (h : closeText? read bs = some (raw, rest)) :
    rest.length < bs.length := by
  fun_induction closeText? read bs <;> grind

/-- The lexeme at the start of a byte string, after blanks, and what follows it. -/
def Token.next? (bs : Bytes) : Option (Token × Bytes) :=
  match bs.dropWhile isGap with
  | [] => none
  | 0x5B :: rest => some (.openArray, rest)
  | 0x5D :: rest => some (.closeArray, rest)
  | 0x7B :: rest => some (.openObject, rest)
  | 0x7D :: rest => some (.closeObject, rest)
  | 0x2C :: rest => some (.comma, rest)
  | 0x3A :: rest => some (.colon, rest)
  | 0x6E :: 0x75 :: 0x6C :: 0x6C :: rest => some (.null, rest)
  | 0x74 :: 0x72 :: 0x75 :: 0x65 :: rest => some (.bool true, rest)
  | 0x66 :: 0x61 :: 0x6C :: 0x73 :: 0x65 :: rest => some (.bool false, rest)
  | 0x22 :: rest => (closeText? [] rest).map fun (raw, rest) => (.text raw, rest)
  | b :: rest => (Numeral.take? (b :: rest)).map fun (n, rest) => (.number n, rest)

theorem length_dropWhile_le {α : Type} (p : α → Bool) (xs : List α) :
    (xs.dropWhile p).length ≤ xs.length := by
  induction xs with
  | nil => simp
  | cons x xs ih => rw [List.dropWhile_cons]; split <;> simp; omega

theorem Token.length_next? {bs : Bytes} {t : Token} {rest : Bytes}
    (h : Token.next? bs = some (t, rest)) : rest.length < bs.length := by
  have hle := length_dropWhile_le isGap bs
  unfold Token.next? at h
  split at h <;> try simp only [Option.some.injEq, Prod.mk.injEq, reduceCtorEq] at h
  all_goals try grind
  · simp only [Option.map_eq_some_iff, Prod.mk.injEq] at h
    obtain ⟨⟨raw, r⟩, hclose, h⟩ := h
    have := length_closeText? hclose
    grind
  · simp only [Option.map_eq_some_iff, Prod.mk.injEq] at h
    obtain ⟨⟨n, r⟩, htake, h⟩ := h
    have := Numeral.length_take? htake
    grind

/-- The bytes that stand for a byte inside a text. -/
def escapeByte (b : UInt8) : Bytes :=
  if b = 0x22 then [0x5C, 0x22]
  else if b = 0x5C then [0x5C, 0x5C]
  else if b = 0x08 then [0x5C, 0x62]
  else if b = 0x09 then [0x5C, 0x74]
  else if b = 0x0A then [0x5C, 0x6E]
  else if b = 0x0C then [0x5C, 0x66]
  else if b = 0x0D then [0x5C, 0x72]
  else if b < 0x20 then
    [0x5C, 0x75, 0x30, 0x30, Hex.digit (b.toNat / 16), Hex.digit (b.toNat % 16)]
  else [b]

def escape (bs : Bytes) : Bytes := bs.flatMap escapeByte

/-- The byte that a backslash and a letter stand for. -/
def escapedByte? (letter : UInt8) : Option UInt8 :=
  if letter = 0x62 then some 0x08
  else if letter = 0x74 then some 0x09
  else if letter = 0x6E then some 0x0A
  else if letter = 0x66 then some 0x0C
  else if letter = 0x72 then some 0x0D
  else if letter = 0x22 ∨ letter = 0x5C ∨ letter = 0x2F then some letter
  else none

def isHighSurrogate (unit : Nat) : Bool := 0xD800 ≤ unit && unit < 0xDC00

def isLowSurrogate (unit : Nat) : Bool := 0xDC00 ≤ unit && unit < 0xE000

/-- The code point written by code units at the start of a byte string, after the backslash and
the `u` of the first one. A surrogate needs its partner. -/
def takeCodePoint? (bs : Bytes) : Option (Nat × Bytes) := do
  let (unit, rest) ← takeUnit? bs
  if isLowSurrogate unit then none
  else if isHighSurrogate unit then
    match rest with
    | 0x5C :: 0x75 :: rest => do
      let (low, rest) ← takeUnit? rest
      if isLowSurrogate low then
        return (0x10000 + 0x400 * (unit - 0xD800) + (low - 0xDC00), rest)
      else none
    | _ => none
  else return (unit, rest)

theorem length_takeUnit? {bs rest : Bytes} {unit : Nat} (h : takeUnit? bs = some (unit, rest)) :
    rest.length < bs.length := by
  unfold takeUnit? at h
  split at h
  · simp only [Option.bind_eq_bind, Option.bind_eq_some_iff, Option.pure_def] at h
    obtain ⟨_, _, _, _, _, _, _, _, h⟩ := h
    grind
  · simp at h

theorem length_takeCodePoint? {bs rest : Bytes} {point : Nat}
    (h : takeCodePoint? bs = some (point, rest)) : rest.length < bs.length := by
  simp only [takeCodePoint?, Option.bind_eq_bind, Option.bind_eq_some_iff, Option.pure_def] at h
  obtain ⟨⟨unit, r⟩, hunit, h⟩ := h
  have hlt := length_takeUnit? hunit
  simp only at h
  split at h
  · simp at h
  · split at h
    · split at h
      · obtain ⟨⟨low, r'⟩, hlow, h⟩ := Option.bind_eq_some_iff.1 h
        have := length_takeUnit? hlow
        grind
      · simp at h
    · grind

/-- The bytes that the inside of a text stands for. -/
def unescape? (raw : Bytes) : Option Bytes :=
  match raw with
  | [] => some []
  | 0x5C :: 0x75 :: rest =>
    match _h : takeCodePoint? rest with
    | none => none
    | some (point, rest') => do
      let bytes ← unescape? rest'
      return String.utf8EncodeChar (Char.ofNat point) ++ bytes
  | [0x5C] => none
  | 0x5C :: letter :: rest => do
    let b ← escapedByte? letter
    let bytes ← unescape? rest
    return b :: bytes
  | b :: rest => do
    let bytes ← unescape? rest
    return b :: bytes
termination_by raw.length
decreasing_by
  · have := length_takeCodePoint? ‹_›
    simp only [List.length_cons]; omega
  all_goals simp only [List.length_cons]; omega

/-- The text that the inside of a quoted text stands for, if it is UTF-8. -/
def textOf? (raw : Bytes) : Option String := do
  let bytes ← unescape? raw
  ofUtf8? bytes

namespace Token

def render : Token → Bytes
  | openArray => [0x5B]
  | closeArray => [0x5D]
  | openObject => [0x7B]
  | closeObject => [0x7D]
  | comma => [0x2C]
  | colon => [0x3A]
  | null => utf8 "null"
  | bool true => utf8 "true"
  | bool false => utf8 "false"
  | number n => n.render
  | text raw => 0x22 :: (raw ++ [0x22])

end Token

end TokenAuth.Json
