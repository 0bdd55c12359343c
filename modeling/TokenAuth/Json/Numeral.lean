import TokenAuth.Json.Basic
import TokenAuth.Text.Shortest

/-! The spelling of JSON numbers, and the numbers that spellings stand for. -/

namespace TokenAuth

/-- The spelling of a JSON number. No fraction digits means no decimal point. -/
structure Numeral where
  negative : Bool
  whole : List Digit
  fraction : List Digit
  exponent : Option (Bool × List Digit)
deriving DecidableEq

namespace Numeral

/-- Takes digits into a word of 64 bits while they fit; returns those left over. -/
def absorb (word : Nat) : List Digit → Nat × List Digit
  | [] => (word, [])
  | d :: ds =>
    if 10 * word + d.val < 0x10000000000000000 then absorb (10 * word + d.val) ds else (word, d :: ds)

def tenTo (n : Nat) : Float := Float.ofScientific 1 false n

/-- `x / 10 ^ n`, by at most 308 decimal places at a time. -/
def shrink (x : Float) (n : Nat) : Float :=
  if n ≤ 308 then x / tenTo n
  else if x == 0 then x
  else shrink (x / tenTo 308) (n - 308)
termination_by n

/-- `word × 10 ^ exponent` with one rounding a step; no value when it is beyond the largest
float. -/
def scale? (word : Nat) (exponent : Int) : Option Float :=
  let x := (UInt64.ofNat word).toFloat
  if exponent < 0 then some (shrink x exponent.natAbs)
  else if exponent ≤ 308 then
    let y := x * tenTo exponent.toNat
    if y.isInf then none else some y
  else if word = 0 then some x
  else none

def signed (negative : Bool) (x : Float) : Float := if negative then -x else x

/-- The float of a number spelled with a point, with an exponent, or with too many digits for a
word. Digits beyond the word count only for the place of the point. -/
def float? (n : Numeral) : Option Float :=
  let (word, left) := absorb 0 n.whole
  let (word, unread) := absorb word n.fraction
  let start : Int := (left.length : Int) - (n.fraction.length - unread.length : Nat)
  let magnitude? :=
    match n.exponent with
    | none => scale? word start
    | some (down, digits) =>
      let e := Digits.value digits
      if 0x80000000 ≤ e then if word = 0 ∨ down then some 0 else none
      else scale? word (if down then start - (e : Int) else start + (e : Int))
  magnitude?.map (signed n.negative)

/-- The number that a spelling stands for: a whole one where it is exact, else a float. -/
def number? (n : Numeral) : Option Number :=
  let float := n.float?.map fun x => Number.float x.toBits
  if n.fraction.isEmpty ∧ n.exponent = none then
    let magnitude := Digits.value n.whole
    if n.negative then
      if magnitude = 0 then some (.float (-0.0 : Float).toBits)
      else
        match Whole.ofInt? (-(magnitude : Int)) with
        | some w => some (.whole w)
        | none => float
    else
      match Whole.ofInt? magnitude with
      | some w => some (.whole w)
      | none => float
  else float

def ofWhole (n : Whole) : Numeral :=
  ⟨n.value < 0, Digits.ofNat n.value.natAbs, [], none⟩

/-- A decimal number is written positionally from `10 ^ -5` to below `10 ^ 16`, and always with a
point or an exponent. -/
def ofDecimal (negative : Bool) (x : Decimal) : Numeral :=
  let count : Int := x.digits.length
  if 0 < x.point ∧ x.point ≤ 16 then
    if count ≤ x.point then
      ⟨negative, x.digits ++ Digits.zeros (x.point - count).toNat, Digits.zeros 1, none⟩
    else ⟨negative, x.digits.take x.point.toNat, x.digits.drop x.point.toNat, none⟩
  else if -5 < x.point ∧ x.point ≤ 0 then
    ⟨negative, Digits.zeros 1, Digits.zeros (-x.point).toNat ++ x.digits, none⟩
  else
    let e := x.point - 1
    ⟨negative, x.digits.take 1, x.digits.drop 1, some (e < 0, Digits.ofNat e.natAbs)⟩

def ofFloat (bits : UInt64) : Numeral :=
  let negative := bits >>> 63 == 1
  match Binary.ofBits? bits with
  | none => ⟨negative, Digits.zeros 1, Digits.zeros 1, none⟩
  | some x => ofDecimal negative x.shortest

def ofNumber : Number → Numeral
  | .whole n => ofWhole n
  | .float bits => ofFloat bits

def render (n : Numeral) : Bytes :=
  (if n.negative then [0x2D] else []) ++ Digits.toBytes n.whole ++
    (if n.fraction.isEmpty then [] else 0x2E :: Digits.toBytes n.fraction) ++
    match n.exponent with
    | none => []
    | some (down, digits) => 0x65 :: ((if down then [0x2D] else []) ++ Digits.toBytes digits)

/-- The digits of a whole part: a lone zero, or digits that do not start with zero. -/
def takeWhole? (bs : Bytes) : Option (List Digit × Bytes) :=
  let (ds, rest) := Digits.take bs
  if ds = [] then none
  else if ds.head?.any (·.val == 0) ∧ ds.length ≠ 1 then none
  else some (ds, rest)

def takeFraction? : Bytes → Option (List Digit × Bytes)
  | [] => some ([], [])
  | b :: rest =>
    if b = 0x2E then
      let (ds, rest) := Digits.take rest
      if ds = [] then none else some (ds, rest)
    else some ([], b :: rest)

/-- A sign that an exponent may carry: whether it is a minus, and what follows it. -/
def takeSign : Bytes → Bool × Bytes
  | [] => (false, [])
  | b :: rest =>
    if b = 0x2D then (true, rest) else if b = 0x2B then (false, rest) else (false, b :: rest)

def takeExponent? : Bytes → Option (Option (Bool × List Digit) × Bytes)
  | [] => some (none, [])
  | b :: rest =>
    if b = 0x65 ∨ b = 0x45 then
      let (down, rest) := takeSign rest
      let (ds, rest) := Digits.take rest
      if ds = [] then none else some (some (down, ds), rest)
    else some (none, b :: rest)

def takeMinus : Bytes → Bool × Bytes
  | [] => (false, [])
  | b :: rest => if b = 0x2D then (true, rest) else (false, b :: rest)

/-- The number spelled at the start of a byte string, and what follows it. -/
def take? (bs : Bytes) : Option (Numeral × Bytes) := do
  let (negative, bs) := takeMinus bs
  let (whole, bs) ← takeWhole? bs
  let (fraction, bs) ← takeFraction? bs
  let (exponent, bs) ← takeExponent? bs
  return (⟨negative, whole, fraction, exponent⟩, bs)

theorem length_takeWhole? {bs : Bytes} {ds : List Digit} {rest : Bytes}
    (h : takeWhole? bs = some (ds, rest)) : rest.length < bs.length := by
  have hlt := @Digits.length_take_snd_lt bs
  simp only [takeWhole?] at h
  split at h <;> try split at h
  all_goals grind

theorem length_takeFraction? {bs : Bytes} {ds : List Digit} {rest : Bytes}
    (h : takeFraction? bs = some (ds, rest)) : rest.length ≤ bs.length := by
  cases bs with
  | nil => simp_all [takeFraction?]
  | cons b bs =>
    have hle := Digits.length_take_snd_le bs
    simp only [takeFraction?] at h
    split at h <;> try split at h
    all_goals grind

theorem length_takeSign (bs : Bytes) : (takeSign bs).2.length ≤ bs.length := by
  cases bs with
  | nil => simp [takeSign]
  | cons b bs => simp only [takeSign]; split <;> try split
                 all_goals simp

theorem length_takeExponent? {bs : Bytes} {e : Option (Bool × List Digit)} {rest : Bytes}
    (h : takeExponent? bs = some (e, rest)) : rest.length ≤ bs.length := by
  cases bs with
  | nil => simp_all [takeExponent?]
  | cons b bs =>
    have hsign := length_takeSign bs
    have hle := Digits.length_take_snd_le (takeSign bs).2
    simp only [takeExponent?] at h
    split at h <;> try split at h
    all_goals grind

theorem length_takeMinus (bs : Bytes) : (takeMinus bs).2.length ≤ bs.length := by
  cases bs with
  | nil => simp [takeMinus]
  | cons b bs => simp only [takeMinus]; split <;> simp

theorem length_take? {bs : Bytes} {n : Numeral} {rest : Bytes}
    (h : take? bs = some (n, rest)) : rest.length < bs.length := by
  simp only [take?, Option.bind_eq_bind, Option.bind_eq_some_iff, Option.pure_def] at h
  obtain ⟨⟨whole, bs₁⟩, h₁, ⟨fraction, bs₂⟩, h₂, ⟨exponent, bs₃⟩, h₃, h⟩ := h
  have := length_takeMinus bs
  have := length_takeWhole? h₁
  have := length_takeFraction? h₂
  have := length_takeExponent? h₃
  grind

end Numeral

end TokenAuth
