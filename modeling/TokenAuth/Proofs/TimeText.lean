import TokenAuth.Proofs.DateText
import TokenAuth.Time.DateTime

/-!
# Texts of times

A record writes a time as its date, a `T` and its time of day, with as few digits of a fraction as
show its nanoseconds. A leap second is written as second 60, and second 60 is read as a leap second,
so each time is read from its own text (`DateTime.read?_text`).
-/

namespace TokenAuth

open Timestamp Outcome

namespace Timestamp

theorem bounded_padded {low high n : Nat} {rest : List Char} (hn : low ≤ n ∧ n ≤ high)
    (hsize : n < 100) (hrest : ∀ c ∈ rest.head?, Digits.ofChar? c = none) :
    bounded low high ((Digits.text (Digits.padded 2 n)).toList ++ rest) = .ok (n, rest) :=
  (takes_bounded low high).complete
    ⟨hn, afterBlanks_of (writesDigits_padded (by decide) hsize)⟩ hrest

end Timestamp

namespace DateTime

/-! ### Fractions -/

theorem fraction_point {ds : List Digit} (hne : ds ≠ []) (hlength : ds.length ≤ 9) :
    fraction ('.' :: (Digits.text ds).toList) =
      .ok (Digits.value ds * 10 ^ (9 - ds.length), []) := by
  have hsize : Digits.value ds < 0x8000000000000000 :=
    calc Digits.value ds < 10 ^ ds.length := Digits.value_lt_pow ds
      _ ≤ 10 ^ 9 := Nat.pow_le_pow_right (by decide) hlength
      _ < 0x8000000000000000 := by decide
  have hwidth : ∀ w ∈ some 9, ds.length ≤ w := by
    rintro w ⟨⟩
    exact hlength
  have hnumber := (takes_number (some 9)).complete ⟨hsize, ds, hne, hwidth, rfl, rfl⟩ head?_nil
  rw [List.append_nil] at hnumber
  refine bind_eq_ok_iff.mpr ⟨_, hnumber, ?_⟩
  rw [Digits.length_text]
  rfl

theorem fraction_padded {width n : Nat} (hwidth : width ≠ 0) (hle : width ≤ 9)
    (hn : n < 10 ^ width) :
    fraction ("." ++ Digits.text (Digits.padded width n)).toList =
      .ok (n * 10 ^ (9 - width), []) := by
  have hlength := Digits.length_padded hwidth hn
  have hpoint := fraction_point (Digits.padded_ne_nil width n) (hlength.symm ▸ hle)
  rw [Digits.value_padded, hlength] at hpoint
  rw [String.toList_append]
  exact hpoint

/-- A fraction is read from the digits that show it, however few. -/
theorem fraction_fractionText {nanos : Nat} (h : nanos < 1000000000) :
    fraction (fractionText nanos).toList = .ok (nanos, []) := by
  unfold fractionText
  split
  · next hzero =>
    subst hzero
    rfl
  · split
    · next hmilli =>
      rw [fraction_padded (by decide) (by decide) (by omega)]
      congr 2
      omega
    · split
      · next hmicro =>
        rw [fraction_padded (by decide) (by decide) (by omega)]
        congr 2
        omega
      · rw [fraction_padded (by decide) (by decide) h]
        congr 2
        omega

theorem head?_fractionText (nanos : Nat) :
    ∀ c ∈ (fractionText nanos).toList.head?, Digits.ofChar? c = none := by
  have hpoint (digits : String) :
      ∀ c ∈ ("." ++ digits).toList.head?, Digits.ofChar? c = none := by
    rw [String.toList_append]
    exact head?_cons (by decide) _
  unfold fractionText
  split
  · exact head?_nil
  · split
    · exact hpoint _
    · split
      · exact hpoint _
      · exact hpoint _

/-! ### Times of day -/

/-- The second and the nanoseconds as they are written. -/
def written (t : DateTime) : Nat × Nat :=
  if 1000000000 ≤ t.nanos then (t.second + 1, t.nanos - 1000000000) else (t.second, t.nanos)

theorem toList_text (t : DateTime) : t.text.toList = t.date.text.toList ++ 'T' ::
    ((Digits.text (Digits.padded 2 t.hour)).toList ++ ':' ::
      ((Digits.text (Digits.padded 2 t.minute)).toList ++ ':' ::
        ((Digits.text (Digits.padded 2 t.written.1)).toList ++
          (fractionText t.written.2).toList))) := by
  change (t.date.text ++ "T" ++ Digits.text (Digits.padded 2 t.hour) ++ ":" ++
    Digits.text (Digits.padded 2 t.minute) ++ ":" ++ Digits.text (Digits.padded 2 t.written.1) ++
      fractionText t.written.2).toList = _
  simp only [String.toList_append, List.append_assoc]
  rfl

theorem written_lt (t : DateTime) : t.written.1 ≤ 60 ∧ t.written.2 < 1000000000 := by
  have hsecond := t.second_lt
  have hnanos := t.nanos_le
  unfold written
  split
  · exact ⟨by omega, by omega⟩
  · exact ⟨by omega, by omega⟩

theorem parts_text (t : DateTime) : parts t.text.toList =
    .ok (((t.date.year, t.date.month, t.date.day), t.hour, t.minute, t.written), []) := by
  have hhour := t.hour_lt
  have hminute := t.minute_lt
  obtain ⟨hsecond, hnanos⟩ := t.written_lt
  have hcolon (cs : List Char) : ∀ c ∈ (':' :: cs).head?, Digits.ofChar? c = none :=
    head?_cons (by decide) cs
  have hdate := t.date.spelledBy_text
  rw [toList_text]
  refine bind_eq_ok_iff.mpr
    ⟨_, Date.dateParts_of_spelledBy true hdate (head?_cons (by decide) _), ?_⟩
  refine bind_eq_ok_iff.mpr ⟨_, literal_eq_ok_iff.mpr (skipBlanks_cons (by decide) _), ?_⟩
  refine bind_eq_ok_iff.mpr ⟨_, bounded_padded ⟨by omega, by omega⟩ (by omega) (hcolon _), ?_⟩
  refine bind_eq_ok_iff.mpr ⟨_, literal_eq_ok_iff.mpr (skipBlanks_cons (by decide) _), ?_⟩
  refine bind_eq_ok_iff.mpr ⟨_, bounded_padded ⟨by omega, by omega⟩ (by omega) (hcolon _), ?_⟩
  refine bind_eq_ok_iff.mpr ⟨_, literal_eq_ok_iff.mpr (skipBlanks_cons (by decide) _), ?_⟩
  refine bind_eq_ok_iff.mpr ⟨_, bounded_padded ⟨by omega, hsecond⟩ (by omega)
    (head?_fractionText _), ?_⟩
  exact bind_eq_ok_iff.mpr ⟨_, fraction_fractionText hnanos, rfl⟩

theorem ofParts?_eq_some (t : DateTime) :
    ofParts? t.date t.hour t.minute t.second t.nanos = some t :=
  dif_pos ⟨t.hour_lt, t.minute_lt, t.second_lt, t.nanos_le, t.leap⟩

/-- **A time is read from its own text**, with any fraction and in a leap second too. -/
theorem read?_text (t : DateTime) : read? t.text = some t := by
  have hsecond := t.second_lt
  have hleap := t.leap
  have hself := t.ofParts?_eq_some
  simp only [read?, parts_text, Date.dateOf_parts, Except.toOption, Option.bind_eq_bind,
    Option.bind_some, List.isEmpty_nil, if_true, written]
  split
  · next hlarge =>
    have hnanos : t.nanos - 1000000000 + 1000000000 = t.nanos := by omega
    rw [hleap hlarge] at hself
    rw [hleap hlarge, if_pos rfl, hnanos, hself]
  · rw [if_neg (by omega), hself]

end DateTime

end TokenAuth
