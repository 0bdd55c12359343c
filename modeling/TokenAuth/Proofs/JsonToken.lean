import TokenAuth.Json.Printer
import TokenAuth.Proofs.Digits

/-!
# Lexemes read back

Each lexeme that is written is the next one to be read. The text between quotes stands for the text
it was written from, and a whole number is spelled by the digits it reads as.
-/

namespace TokenAuth

/-! ### Whole numbers -/

namespace Numeral

/-- What follows does not go on with a number. -/
def Ended (rest : Bytes) : Prop :=
  ∀ b ∈ rest.head?, Digits.ofByte? b = none ∧ b ≠ 0x2E ∧ b ≠ 0x65 ∧ b ≠ 0x45

theorem takeWhole?_ofNat (n : Nat) {rest : Bytes} (hrest : Ended rest) :
    takeWhole? (Digits.toBytes (Digits.ofNat n) ++ rest) = some (Digits.ofNat n, rest) := by
  have htake := Digits.take_toBytes_append (Digits.ofNat n) fun b hb => (hrest b hb).1
  have hzero : ¬((Digits.ofNat n).head?.any (·.val == 0) ∧ (Digits.ofNat n).length ≠ 1) := by
    by_cases hn : n = 0
    · subst hn
      simp [Digits.ofNat]
    · have hhead := Digits.head?_ofNat_ne_zero hn
      obtain ⟨d, ds, hds⟩ := List.exists_cons_of_ne_nil (Digits.ofNat_ne_nil n)
      rw [hds] at hhead ⊢
      rintro ⟨hany, -⟩
      exact hhead d rfl (by simpa using hany)
  rw [takeWhole?, htake]
  simp only [if_neg (Digits.ofNat_ne_nil n), if_neg hzero]

theorem takeFraction?_ended {rest : Bytes} (hrest : Ended rest) :
    takeFraction? rest = some ([], rest) := by
  cases rest with
  | nil => rfl
  | cons b rest => rw [takeFraction?, if_neg (hrest b rfl).2.1]

theorem takeExponent?_ended {rest : Bytes} (hrest : Ended rest) :
    takeExponent? rest = some (none, rest) := by
  cases rest with
  | nil => rfl
  | cons b rest =>
    obtain ⟨-, -, hlower, hupper⟩ := hrest b rfl
    rw [takeExponent?, if_neg (by simp [hlower, hupper])]

theorem toByte_ne_minus (d : Digit) : Digits.toByte d ≠ 0x2D := by
  revert d
  decide

theorem takeMinus_digits {ds : List Digit} (hds : ds ≠ []) (rest : Bytes) :
    takeMinus (Digits.toBytes ds ++ rest) = (false, Digits.toBytes ds ++ rest) := by
  obtain ⟨d, ds, rfl⟩ := List.exists_cons_of_ne_nil hds
  change takeMinus (Digits.toByte d :: _) = _
  rw [takeMinus, if_neg (toByte_ne_minus d)]
  rfl

theorem take?_ofWhole (n : Whole) {rest : Bytes} (hrest : Ended rest) :
    take? ((ofWhole n).render ++ rest) = some (ofWhole n, rest) := by
  have hwhole := takeWhole?_ofNat n.value.natAbs hrest
  have hminus : takeMinus ((ofWhole n).render ++ rest) =
      (decide (n.value < 0), Digits.toBytes (Digits.ofNat n.value.natAbs) ++ rest) := by
    by_cases hn : n.value < 0
    · simp [ofWhole, render, hn, takeMinus]
    · have hdigits := takeMinus_digits (Digits.ofNat_ne_nil n.value.natAbs) rest
      simpa [ofWhole, render, hn] using hdigits
  simp only [take?, hminus, hwhole, takeFraction?_ended hrest, takeExponent?_ended hrest,
    Option.bind_eq_bind, Option.bind_some, Option.pure_def]
  rfl

theorem number?_ofWhole (n : Whole) : (ofWhole n).number? = some (.whole n) := by
  have hvalue := Digits.value_ofNat n.value.natAbs
  have hself : Whole.ofInt? n.value = some n := by
    rw [Whole.ofInt?, dif_pos ⟨n.lower, n.upper⟩]
  simp only [number?, ofWhole, List.isEmpty_nil, hvalue, and_self, if_true]
  by_cases hn : n.value < 0
  · rw [if_pos (decide_eq_true hn), if_neg (by omega),
      show -(n.value.natAbs : Int) = n.value by omega, hself]
  · rw [if_neg (by simpa using hn), show (n.value.natAbs : Int) = n.value by omega, hself]

end Numeral

/-! ### Texts -/

namespace Hex

/-- A digit ends no text and starts no escape. -/
theorem digit_plain {n : Nat} (h : n < 16) :
    digit n ≠ 0x22 ∧ ¬digit n < 0x20 ∧ digit n ≠ 0x5C := by
  revert n
  decide

end Hex

namespace Json

theorem takeUnit?_control {b : UInt8} (h : b < 0x20) (rest : Bytes) :
    takeUnit? (0x30 :: 0x30 :: Hex.digit (b.toNat / 16) :: Hex.digit (b.toNat % 16) :: rest) =
      some (b.toNat, rest) := by
  have hb : b.toNat < 0x20 := UInt8.lt_iff_toNat_lt.mp h
  have hzero : Hex.value? 0x30 = some 0 := by decide
  simp only [takeUnit?, hzero, Hex.value?_digit (show b.toNat / 16 < 16 by omega),
    Hex.value?_digit (show b.toNat % 16 < 16 by omega), Option.bind_eq_bind, Option.bind_some,
    Option.pure_def, Option.some.injEq, Prod.mk.injEq, and_true]
  omega

theorem closeText?_plain {b : UInt8} (hquote : b ≠ 0x22) (hcontrol : ¬b < 0x20)
    (hslash : b ≠ 0x5C) (read rest : Bytes) :
    closeText? read (b :: rest) = closeText? (b :: read) rest := by
  rw [closeText?.eq_def]
  simp [hquote, hcontrol, hslash]

theorem closeText?_letter {e : UInt8} (he : isEscapeLetter e) (read rest : Bytes) :
    closeText? read (0x5C :: e :: rest) = closeText? (e :: 0x5C :: read) rest := by
  simp [closeText?, he]

theorem closeText?_control {b : UInt8} (h : b < 0x20) (read rest : Bytes) :
    closeText? read (0x5C :: 0x75 :: 0x30 :: 0x30 :: Hex.digit (b.toNat / 16) ::
        Hex.digit (b.toNat % 16) :: rest) =
      closeText? (Hex.digit (b.toNat % 16) :: Hex.digit (b.toNat / 16) :: 0x30 :: 0x30 :: 0x75 ::
        0x5C :: read) rest := by
  have hb : b.toNat < 0x20 := UInt8.lt_iff_toNat_lt.mp h
  have hhigh := Hex.digit_plain (show b.toNat / 16 < 16 by omega)
  have hlow := Hex.digit_plain (show b.toNat % 16 < 16 by omega)
  have hletter : isEscapeLetter 0x75 = false := by decide
  have hunit := takeUnit?_control h rest
  rw [closeText?, if_neg (by decide), if_neg (by decide), if_neg (by decide)]
  simp only [hletter, Bool.false_eq_true, if_false, hunit, Option.isSome_some, and_self, if_true]
  rw [closeText?_plain (by decide) (by decide) (by decide),
    closeText?_plain (by decide) (by decide) (by decide),
    closeText?_plain hhigh.1 hhigh.2.1 hhigh.2.2, closeText?_plain hlow.1 hlow.2.1 hlow.2.2]

/-- A byte is written as it is, or as a letter after a backslash, or as a code unit. -/
inductive Escaped (b : UInt8) : Bytes → Prop
  | letter {letter : UInt8} (hletter : isEscapeLetter letter) (hne : letter ≠ 0x75)
      (hbyte : escapedByte? letter = some b) : Escaped b [0x5C, letter]
  | control (h : b < 0x20) : Escaped b
      [0x5C, 0x75, 0x30, 0x30, Hex.digit (b.toNat / 16), Hex.digit (b.toNat % 16)]
  | plain (hquote : b ≠ 0x22) (hcontrol : ¬b < 0x20) (hslash : b ≠ 0x5C) : Escaped b [b]

theorem escaped_escapeByte (b : UInt8) : Escaped b (escapeByte b) := by
  unfold escapeByte
  by_cases hquote : b = 0x22
  · subst hquote
    exact .letter (by decide) (by decide) (by decide)
  by_cases hslash : b = 0x5C
  · subst hslash
    exact .letter (by decide) (by decide) (by decide)
  rw [if_neg hquote, if_neg hslash]
  by_cases hcontrol : b < 0x20
  · split
    · next h => exact .letter (by decide) (by decide) (h ▸ by decide)
    split
    · next h => exact .letter (by decide) (by decide) (h ▸ by decide)
    split
    · next h => exact .letter (by decide) (by decide) (h ▸ by decide)
    split
    · next h => exact .letter (by decide) (by decide) (h ▸ by decide)
    split
    · next h => exact .letter (by decide) (by decide) (h ▸ by decide)
    exact .control hcontrol
  · have hne (c : UInt8) (hc : c < 0x20) : b ≠ c := fun h => hcontrol (h ▸ hc)
    rw [if_neg (hne _ (by decide)), if_neg (hne _ (by decide)), if_neg (hne _ (by decide)),
      if_neg (hne _ (by decide)), if_neg (hne _ (by decide)), if_neg hcontrol]
    exact .plain hquote hcontrol hslash

theorem length_escape_le (bs : Bytes) : (escape bs).length ≤ 6 * bs.length := by
  induction bs with
  | nil => exact Nat.le_refl 0
  | cons b bs ih =>
    have hbyte : (escapeByte b).length ≤ 6 := by
      have hescaped := escaped_escapeByte b
      generalize escapeByte b = bytes at hescaped ⊢
      cases hescaped <;> simp
    have hcons : escape (b :: bs) = escapeByte b ++ escape bs := List.flatMap_cons
    rw [hcons, List.length_append, List.length_cons]
    omega

theorem length_le_escape (bs : Bytes) : bs.length ≤ (escape bs).length := by
  induction bs with
  | nil => exact Nat.le_refl 0
  | cons b bs ih =>
    have hbyte : 1 ≤ (escapeByte b).length := by
      have hescaped := escaped_escapeByte b
      generalize escapeByte b = bytes at hescaped ⊢
      cases hescaped <;> simp
    have hcons : escape (b :: bs) = escapeByte b ++ escape bs := List.flatMap_cons
    rw [hcons, List.length_append, List.length_cons]
    omega

theorem closeText?_escapeByte (b : UInt8) (read rest : Bytes) :
    closeText? read (escapeByte b ++ rest) = closeText? ((escapeByte b).reverse ++ read) rest := by
  have hescaped := escaped_escapeByte b
  generalize escapeByte b = bytes at hescaped ⊢
  cases hescaped with
  | letter hletter => exact closeText?_letter hletter _ _
  | control h => exact closeText?_control h _ _
  | plain hquote hcontrol hslash => exact closeText?_plain hquote hcontrol hslash _ _

/-- The closing quote of a written text is found where it was put. -/
theorem closeText?_escape (bs read rest : Bytes) :
    closeText? read (escape bs ++ 0x22 :: rest) = some (read.reverse ++ escape bs, rest) := by
  induction bs generalizing read with
  | nil =>
    rw [closeText?.eq_def]
    simp [escape]
  | cons b bs ih =>
    have hcons : escape (b :: bs) = escapeByte b ++ escape bs := List.flatMap_cons
    rw [hcons, List.append_assoc, closeText?_escapeByte, ih]
    simp

theorem takeCodePoint?_control {b : UInt8} (h : b < 0x20) (rest : Bytes) :
    takeCodePoint? (0x30 :: 0x30 :: Hex.digit (b.toNat / 16) :: Hex.digit (b.toNat % 16) ::
      rest) = some (b.toNat, rest) := by
  have hb : b.toNat < 0x20 := UInt8.lt_iff_toNat_lt.mp h
  have hlow : isLowSurrogate b.toNat = false := by
    simp only [isLowSurrogate, Bool.and_eq_false_iff, decide_eq_false_iff_not]
    omega
  have hhigh : isHighSurrogate b.toNat = false := by
    simp only [isHighSurrogate, Bool.and_eq_false_iff, decide_eq_false_iff_not]
    omega
  simp [takeCodePoint?, takeUnit?_control h, hlow, hhigh]

theorem utf8EncodeChar_byte {b : UInt8} (h : b.toNat < 0x80) :
    String.utf8EncodeChar (Char.ofNat b.toNat) = [b] := by
  have hascii : utf8 (ofAscii [b]) = [b] := utf8_ofAscii (by simpa using h)
  rw [ofAscii, utf8_ofList] at hascii
  simpa using hascii

theorem unescape?_letter {letter b : UInt8} (hu : letter ≠ 0x75)
    (hletter : escapedByte? letter = some b) (rest : Bytes) :
    unescape? (0x5C :: letter :: rest) = (unescape? rest).map (b :: ·) := by
  rw [unescape?]
  · simp only [hletter, Option.bind_eq_bind, Option.bind_some, Option.pure_def]
    cases unescape? rest <;> rfl
  · exact hu

theorem unescape?_plain {b : UInt8} (hslash : b ≠ 0x5C) (rest : Bytes) :
    unescape? (b :: rest) = (unescape? rest).map (b :: ·) := by
  rw [unescape?]
  · simp only [Option.bind_eq_bind, Option.pure_def]
    cases unescape? rest <;> rfl
  · intro rest' heq
    exact absurd heq hslash
  · intro heq
    exact absurd heq hslash
  · intro letter rest' heq
    exact absurd heq hslash

theorem unescape?_control {b : UInt8} (h : b < 0x20) (rest : Bytes) :
    unescape? (0x5C :: 0x75 :: 0x30 :: 0x30 :: Hex.digit (b.toNat / 16) ::
        Hex.digit (b.toNat % 16) :: rest) = (unescape? rest).map (b :: ·) := by
  have hb : b.toNat < 0x20 := UInt8.lt_iff_toNat_lt.mp h
  rw [unescape?]
  split
  · next hnone => simp [takeCodePoint?_control h] at hnone
  · next point rest' hsome =>
    rw [takeCodePoint?_control h, Option.some.injEq, Prod.mk.injEq] at hsome
    obtain ⟨rfl, rfl⟩ := hsome
    simp only [utf8EncodeChar_byte (show b.toNat < 0x80 by omega), Option.bind_eq_bind,
      Option.pure_def]
    cases unescape? rest <;> rfl

theorem unescape?_escapeByte (b : UInt8) (rest : Bytes) :
    unescape? (escapeByte b ++ rest) = (unescape? rest).map (b :: ·) := by
  have hescaped := escaped_escapeByte b
  generalize escapeByte b = bytes at hescaped ⊢
  cases hescaped with
  | letter hletter hne hbyte => exact unescape?_letter hne hbyte _
  | control h => exact unescape?_control h _
  | plain hquote hcontrol hslash => exact unescape?_plain hslash _

theorem unescape?_escape (bs : Bytes) : unescape? (escape bs) = some bs := by
  induction bs with
  | nil => simp [escape, unescape?]
  | cons b bs ih =>
    have hcons : escape (b :: bs) = escapeByte b ++ escape bs := List.flatMap_cons
    rw [hcons, unescape?_escapeByte, ih]
    rfl

/-- The inside of a written text stands for that text. -/
theorem textOf?_escape (s : String) : textOf? (escape (utf8 s)) = some s := by
  simp [textOf?, unescape?_escape, ofUtf8?_utf8]

/-! ### Lexemes -/

namespace Token

/-- A lexeme as it is written: the text between quotes is escaped, a number is a whole one, and
what follows a number does not go on with it. -/
inductive Written : Token → Bytes → Prop
  | openArray (rest : Bytes) : Written .openArray rest
  | closeArray (rest : Bytes) : Written .closeArray rest
  | openObject (rest : Bytes) : Written .openObject rest
  | closeObject (rest : Bytes) : Written .closeObject rest
  | comma (rest : Bytes) : Written .comma rest
  | colon (rest : Bytes) : Written .colon rest
  | null (rest : Bytes) : Written .null rest
  | bool (b : Bool) (rest : Bytes) : Written (.bool b) rest
  | whole (n : Whole) {rest : Bytes} (hrest : Numeral.Ended rest) :
      Written (.number (Numeral.ofWhole n)) rest
  | text (bs rest : Bytes) : Written (.text (escape bs)) rest

theorem next?_minus (rest : Bytes) :
    next? (0x2D :: rest) =
      (Numeral.take? (0x2D :: rest)).map fun (n, rest) => (.number n, rest) :=
  rfl

theorem next?_digit (d : Digit) (rest : Bytes) :
    next? (Digits.toByte d :: rest) =
      (Numeral.take? (Digits.toByte d :: rest)).map fun (n, rest) => (.number n, rest) := by
  match d with
  | 0 | 1 | 2 | 3 | 4 | 5 | 6 | 7 | 8 | 9 => rfl

theorem next?_whole (n : Whole) {rest : Bytes} (hrest : Numeral.Ended rest) :
    next? ((Numeral.ofWhole n).render ++ rest) = some (.number (Numeral.ofWhole n), rest) := by
  have htake := Numeral.take?_ofWhole n hrest
  have hrender : (Numeral.ofWhole n).render ++ rest =
      (if n.value < 0 then [0x2D] else []) ++
        (Digits.toBytes (Digits.ofNat n.value.natAbs) ++ rest) := by
    simp [Numeral.ofWhole, Numeral.render]
  rw [hrender] at htake ⊢
  by_cases hn : n.value < 0
  · simp only [hn, if_true, List.cons_append, List.nil_append] at htake ⊢
    rw [next?_minus, htake]
    rfl
  · obtain ⟨d, ds, hds⟩ := List.exists_cons_of_ne_nil (Digits.ofNat_ne_nil n.value.natAbs)
    simp only [hn, if_false, List.nil_append, hds, Digits.toBytes, List.map_cons,
      List.cons_append] at htake ⊢
    rw [next?_digit, htake]
    rfl

/-- **A written lexeme is the next one to be read.** -/
theorem next?_render {t : Token} {rest : Bytes} (h : Written t rest) :
    next? (t.render ++ rest) = some (t, rest) := by
  cases h with
  | openArray | closeArray | openObject | closeObject | comma | colon => rfl
  | null => rfl
  | bool b => cases b <;> rfl
  | whole n hrest => exact next?_whole n hrest
  | text bs =>
    have hclose := closeText?_escape bs [] rest
    have hrender : render (.text (escape bs)) ++ rest = 0x22 :: (escape bs ++ 0x22 :: rest) := by
      simp [render]
    have hgap : isGap 0x22 = false := by decide
    rw [hrender, next?, List.dropWhile_cons, hgap]
    simp [hclose]

end Token

end Json

end TokenAuth
