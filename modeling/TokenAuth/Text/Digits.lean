import TokenAuth.Text.Bytes

/-! Decimal digits. -/

namespace TokenAuth

abbrev Digit := Fin 10

namespace Digits

/-- The decimal digit that a byte writes. -/
def ofByte? (b : UInt8) : Option Digit :=
  if h : 0x30 ≤ b.toNat ∧ b.toNat ≤ 0x39 then some ⟨b.toNat - 0x30, by omega⟩ else none

def toByte (d : Digit) : UInt8 := UInt8.ofNat (0x30 + d.val)

theorem ofByte?_toByte (d : Digit) : ofByte? (toByte d) = some d := by
  revert d; decide

/-- The digits at the start of a byte string, and what follows them. -/
def take : Bytes → List Digit × Bytes
  | [] => ([], [])
  | b :: rest =>
    match ofByte? b with
    | some d => ((d :: (take rest).1), (take rest).2)
    | none => ([], b :: rest)

theorem length_take_snd_le (bs : Bytes) : (take bs).2.length ≤ bs.length := by
  induction bs with
  | nil => simp [take]
  | cons b rest ih =>
    unfold take
    split
    · simp only [List.length_cons]; omega
    · simp

theorem length_take_snd_lt {bs : Bytes} (h : (take bs).1 ≠ []) :
    (take bs).2.length < bs.length := by
  cases bs with
  | nil => exact absurd rfl h
  | cons b rest =>
    have hle := length_take_snd_le rest
    unfold take at h ⊢
    split
    · simp only [List.length_cons]; omega
    · next hnone => simp [hnone] at h

/-- The number that digits write, the leading one first. -/
def value (ds : List Digit) : Nat := ds.foldl (fun n d => 10 * n + d.val) 0

/-- The digits of a number without leading zeros; zero is one digit. -/
def ofNat (n : Nat) : List Digit :=
  if n < 10 then [Fin.ofNat 10 n] else ofNat (n / 10) ++ [Fin.ofNat 10 n]

theorem value_append_singleton (ds : List Digit) (d : Digit) :
    value (ds ++ [d]) = 10 * value ds + d.val := by
  simp [value]

theorem value_ofNat (n : Nat) : value (ofNat n) = n := by
  induction n using Nat.strongRecOn with
  | ind n ih =>
    unfold ofNat
    split
    · next h => simp [value, Fin.ofNat, Nat.mod_eq_of_lt h]
    · next h =>
      rw [value_append_singleton, ih (n / 10) (by omega)]
      simp only [Fin.ofNat]
      omega

def zeros (count : Nat) : List Digit := List.replicate count ⟨0, by decide⟩

/-- Digits with zeros in front to make at least `width` of them. -/
def padded (width n : Nat) : List Digit := zeros (width - (ofNat n).length) ++ ofNat n

def toBytes (ds : List Digit) : Bytes := ds.map toByte

/-- The text of digits. -/
def text (ds : List Digit) : String :=
  String.ofList (ds.map fun d => Char.ofNat (0x30 + d.val))

/-- The digit that a character writes. -/
def ofChar? (c : Char) : Option Digit :=
  if h : 0x30 ≤ c.toNat ∧ c.toNat ≤ 0x39 then some ⟨c.toNat - 0x30, by omega⟩ else none

/-- The digits at the start of a list of characters, and what follows them. -/
def takeChars : List Char → List Digit × List Char
  | [] => ([], [])
  | c :: rest =>
    match ofChar? c with
    | some d => ((d :: (takeChars rest).1), (takeChars rest).2)
    | none => ([], c :: rest)

/-- The number that a text of digits alone writes. -/
def nat? (cs : List Char) : Option Nat :=
  if cs.isEmpty then none else (cs.mapM ofChar?).map value

end Digits

end TokenAuth
