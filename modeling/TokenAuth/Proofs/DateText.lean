import Mathlib.Data.List.Infix
import TokenAuth.Proofs.Digits
import TokenAuth.Proofs.Trimmed
import TokenAuth.Time.Date

/-!
# Texts of dates

A form field gives a date by its year, month and day with hyphens between them. The readers of these
parts take what is written in a form of their own, with fewer digits or more, a sign or blanks in
front (`Date.read_eq_ok_iff`). An ISO date is one of these texts, and the only one that is the text
of its date (`Date.NamedBy.text_eq`).
-/

namespace TokenAuth

namespace Timestamp

open Digits Outcome

/-- A reader that takes from a text what is written in a form, where no digit follows it, and
nothing else. -/
structure Takes {α : Type} (reader : Reader α) (Writes : α → List Char → Prop) : Prop where
  sound : ∀ {cs a rest}, reader cs = .ok (a, rest) → ∃ written, Writes a written ∧
    cs = written ++ rest
  complete : ∀ {a written rest}, Writes a written → (∀ c ∈ rest.head?, ofChar? c = none) →
    reader (written ++ rest) = .ok (a, rest)

/-- Digits that write a number, as many as there may be. -/
def WritesDigits (width : Option Nat) (n : Nat) (cs : List Char) : Prop :=
  ∃ ds, ds ≠ [] ∧ (∀ w ∈ width, ds.length ≤ w) ∧ value ds = n ∧ cs = (text ds).toList

/-- The digits that a reader of numbers takes. -/
def digitsOf (width : Option Nat) (cs : List Char) : List Digit :=
  match width with
  | some w => (takeChars cs).1.take w
  | none => (takeChars cs).1

theorem number_eq (width : Option Nat) (cs : List Char) : number width cs =
    if cs.isEmpty then .error .tooShort
    else if (digitsOf width cs).isEmpty then .error .invalid
    else if 0x8000000000000000 ≤ value (digitsOf width cs) then .error .outOfRange
    else .ok (value (digitsOf width cs), cs.drop (digitsOf width cs).length) :=
  rfl

theorem text_digitsOf_append (width : Option Nat) (cs : List Char) :
    (text (digitsOf width cs)).toList ++ cs.drop (digitsOf width cs).length = cs := by
  have hall := text_takeChars_append cs
  have hprefix : (text (digitsOf width cs)).toList <+: cs := by
    cases width with
    | none => exact ⟨_, hall⟩
    | some w =>
      refine ⟨(text ((takeChars cs).1.drop w)).toList ++ (takeChars cs).2, ?_⟩
      rw [← List.append_assoc, digitsOf, ← text_append, List.take_append_drop, hall]
  rw [← length_text]
  exact (List.prefix_append_drop hprefix).symm

theorem length_digitsOf_le (width : Option Nat) (cs : List Char) :
    ∀ w ∈ width, (digitsOf width cs).length ≤ w := by
  rintro w ⟨⟩
  exact List.length_take_le w _

theorem digitsOf_text_append {width : Option Nat} {ds : List Digit} {rest : List Char}
    (hwidth : ∀ w ∈ width, ds.length ≤ w) (hrest : ∀ c ∈ rest.head?, ofChar? c = none) :
    digitsOf width ((text ds).toList ++ rest) = ds := by
  have htake := congrArg Prod.fst (takeChars_text_append ds hrest)
  cases width with
  | none => exact htake
  | some w => rw [digitsOf, htake, List.take_of_length_le (hwidth w rfl)]

theorem takes_number (width : Option Nat) : Takes (number width) fun n cs =>
    n < 0x8000000000000000 ∧ WritesDigits width n cs where
  sound := by
    intro cs n rest h
    rw [number_eq] at h
    split at h
    · exact nomatch h
    split at h
    · exact nomatch h
    next hsome =>
    split at h
    · exact nomatch h
    next hsize =>
    obtain ⟨rfl, rfl⟩ := Prod.mk.inj (Except.ok.inj h)
    exact ⟨_, ⟨Nat.lt_of_not_le hsize, _, mt List.isEmpty_iff.mpr hsome,
      length_digitsOf_le width cs, rfl, rfl⟩, (text_digitsOf_append width cs).symm⟩
  complete := by
    rintro n written rest ⟨hsize, ds, hne, hwidth, rfl, rfl⟩ hrest
    have hdigits := digitsOf_text_append hwidth hrest
    have hcs : ((text ds).toList ++ rest).isEmpty = false :=
      List.isEmpty_eq_false_iff.mpr
        (List.append_ne_nil_of_left_ne_nil (mt toList_text_eq_nil_iff.mp hne) rest)
    have hsome : ds.isEmpty = false := List.isEmpty_eq_false_iff.mpr hne
    rw [number_eq, hdigits, hcs, hsome, if_neg Bool.false_ne_true, if_neg Bool.false_ne_true,
      if_neg (Nat.not_le_of_lt hsize), ← length_text, List.drop_left]

theorem Takes.congr {α : Type} {reader : Reader α} {Writes Writes' : α → List Char → Prop}
    (h : Takes reader Writes) (hiff : ∀ a cs, Writes a cs ↔ Writes' a cs) :
    Takes reader Writes' where
  sound hread := by
    obtain ⟨written, hwrites, hcs⟩ := h.sound hread
    exact ⟨written, (hiff _ _).mp hwrites, hcs⟩
  complete hwrites hrest := h.complete ((hiff _ _).mpr hwrites) hrest

/-- What is written is known by what follows it and by the whole text. -/
theorem Takes.unique {α : Type} {reader : Reader α} {Writes : α → List Char → Prop}
    (h : Takes reader Writes) {a b : α} {first second after rest : List Char}
    (ha : Writes a first) (hb : Writes b second) (hafter : ∀ c ∈ after.head?, ofChar? c = none)
    (hrest : ∀ c ∈ rest.head?, ofChar? c = none) (heq : first ++ after = second ++ rest) :
    a = b ∧ after = rest := by
  have hread := h.complete ha hafter
  rw [heq, h.complete hb hrest] at hread
  obtain ⟨hab, hrests⟩ := Prod.mk.inj (Except.ok.inj hread)
  exact ⟨hab.symm, hrests.symm⟩

/-! ### Readers that skip blanks or check what they read -/

/-- Blanks, or none, and then what is written in a form. -/
def AfterBlanks (Writes : List Char → Prop) (cs : List Char) : Prop :=
  ∃ blanks written, (∀ c ∈ blanks, isBlank c = true) ∧ Writes written ∧ cs = blanks ++ written

theorem afterBlanks_of {Writes : List Char → Prop} {cs : List Char} (h : Writes cs) :
    AfterBlanks Writes cs :=
  ⟨[], cs, by simp, h, rfl⟩

theorem afterBlanks_and_iff {p : Prop} {Writes : List Char → Prop} {cs : List Char} :
    AfterBlanks (fun cs => p ∧ Writes cs) cs ↔ p ∧ AfterBlanks Writes cs := by
  constructor
  · rintro ⟨blanks, written, hblanks, ⟨hp, hwrites⟩, hcs⟩
    exact ⟨hp, blanks, written, hblanks, hwrites, hcs⟩
  · rintro ⟨hp, blanks, written, hblanks, hwrites, hcs⟩
    exact ⟨blanks, written, hblanks, ⟨hp, hwrites⟩, hcs⟩

theorem skipBlanks_cons {c : Char} (hc : isBlank c = false) (cs : List Char) :
    skipBlanks (c :: cs) = c :: cs := by
  rw [skipBlanks, List.dropWhile_cons, hc, if_neg Bool.false_ne_true]

theorem skipBlanks_append {blanks cs : List Char} (hblanks : ∀ c ∈ blanks, isBlank c = true)
    (hcs : ∀ c ∈ cs.head?, isBlank c = false) : skipBlanks (blanks ++ cs) = cs := by
  rw [skipBlanks, List.dropWhile_append_of_pos hblanks]
  cases cs with
  | nil => rfl
  | cons c cs => exact skipBlanks_cons (hcs c rfl) cs

section Readers

variable {α : Type} {reader : Reader α} {Writes : α → List Char → Prop}

theorem Takes.afterBlanks (h : Takes reader Writes)
    (hstart : ∀ {a written}, Writes a written → ∀ rest : List Char,
      ∀ c ∈ (written ++ rest).head?, isBlank c = false) :
    Takes (fun cs => reader (skipBlanks cs)) fun a => AfterBlanks (Writes a) where
  sound := by
    intro cs a rest hread
    obtain ⟨written, hwrites, hcs⟩ := h.sound hread
    refine ⟨cs.takeWhile isBlank ++ written, ⟨_, written, ?_, hwrites, rfl⟩, ?_⟩
    · exact fun c hc => List.mem_takeWhile_imp hc
    · rw [List.append_assoc, ← hcs]
      exact (List.takeWhile_append_dropWhile).symm
  complete := by
    rintro a _ rest ⟨blanks, written, hblanks, hwrites, rfl⟩ hrest
    rw [List.append_assoc, skipBlanks_append hblanks (hstart hwrites rest)]
    exact h.complete hwrites hrest

theorem Takes.checked (h : Takes reader Writes) (p : α → Prop) [DecidablePred p]
    (fault : DateFault) :
    Takes (fun cs => do
      let (a, rest) ← reader cs
      if p a then .ok (a, rest) else .error fault) fun a cs => p a ∧ Writes a cs where
  sound := by
    intro cs a rest hread
    obtain ⟨⟨b, after⟩, hb, hread⟩ := bind_eq_ok_iff.mp hread
    dsimp only at hread
    split at hread
    · next hp =>
      obtain ⟨rfl, rfl⟩ := Prod.mk.inj (Except.ok.inj hread)
      obtain ⟨written, hwrites, hcs⟩ := h.sound hb
      exact ⟨written, ⟨hp, hwrites⟩, hcs⟩
    · exact nomatch hread
  complete := by
    rintro a written rest ⟨hp, hwrites⟩ hrest
    exact bind_eq_ok_iff.mpr ⟨_, h.complete hwrites hrest, if_pos hp⟩

end Readers

/-! ### Years, months and days -/

theorem isBlank_digit (d : Digit) : isBlank (Char.ofNat (0x30 + d.val)) = false := by
  revert d; decide

theorem head?_text_append {ds : List Digit} (hne : ds ≠ []) (rest : List Char) :
    ∀ c ∈ ((text ds).toList ++ rest).head?, ∃ d : Digit, c = Char.ofNat (0x30 + d.val) := by
  cases ds with
  | nil => exact absurd rfl hne
  | cons d ds =>
    rw [toList_text]
    rintro c ⟨⟩
    exact ⟨d, rfl⟩

theorem WritesDigits.head? {width : Option Nat} {n : Nat} {cs : List Char}
    (h : WritesDigits width n cs) (rest : List Char) :
    ∀ c ∈ (cs ++ rest).head?, isBlank c = false := by
  obtain ⟨ds, hne, -, -, rfl⟩ := h
  intro c hc
  obtain ⟨d, rfl⟩ := head?_text_append hne rest c hc
  exact isBlank_digit d

theorem WritesDigits.lt_pow {width n : Nat} {cs : List Char}
    (h : WritesDigits (some width) n cs) : n < 10 ^ width := by
  obtain ⟨ds, -, hwidth, rfl, -⟩ := h
  exact Nat.lt_of_lt_of_le (value_lt_pow ds) (Nat.pow_le_pow_right (by decide) (hwidth width rfl))

theorem takes_twoDigits : Takes (fun cs => number (some 2) (skipBlanks cs)) fun n =>
    AfterBlanks (WritesDigits (some 2) n) := by
  have hnumber : Takes (number (some 2)) (WritesDigits (some 2)) :=
    (takes_number (some 2)).congr fun n cs =>
      and_iff_right_of_imp fun h => Nat.lt_trans h.lt_pow (by decide)
  exact hnumber.afterBlanks fun h => h.head?

theorem takes_bounded (low high : Nat) : Takes (bounded low high) fun n cs =>
    (low ≤ n ∧ n ≤ high) ∧ AfterBlanks (WritesDigits (some 2) n) cs :=
  takes_twoDigits.checked (fun n => low ≤ n ∧ n ≤ high) .outOfRange

/-- A year of one to four digits, or of any number of digits after a sign. -/
inductive WritesYear : Int → List Char → Prop
  | unsigned {n : Nat} {cs : List Char} : WritesDigits (some 4) n cs → WritesYear n cs
  | plus {n : Nat} {cs : List Char} : WritesDigits none n cs → WritesYear n ('+' :: cs)
  | minus {n : Nat} {cs : List Char} : WritesDigits none n cs → WritesYear (-n) ('-' :: cs)

/-- The number of a year, with its sign. -/
def signedNumber : Reader Int
  | '-' :: cs => (number none cs).map fun (n, rest) => (-(n : Int), rest)
  | '+' :: cs => (number none cs).map fun (n, rest) => ((n : Int), rest)
  | cs => (number (some 4) cs).map fun (n, rest) => ((n : Int), rest)

theorem takes_signedNumber : Takes signedNumber fun y cs =>
    y.natAbs < 0x8000000000000000 ∧ WritesYear y cs where
  sound := by
    intro cs y rest h
    rw [signedNumber.eq_def] at h
    split at h <;> obtain ⟨⟨n, after⟩, hnumber, heq⟩ := map_eq_ok_iff.mp h <;>
      obtain ⟨rfl, rfl⟩ := Prod.mk.inj heq
    · obtain ⟨written, ⟨hsize, hwrites⟩, rfl⟩ := (takes_number none).sound hnumber
      exact ⟨'-' :: written, ⟨by omega, .minus hwrites⟩, rfl⟩
    · obtain ⟨written, ⟨hsize, hwrites⟩, rfl⟩ := (takes_number none).sound hnumber
      exact ⟨'+' :: written, ⟨by omega, .plus hwrites⟩, rfl⟩
    · obtain ⟨written, ⟨hsize, hwrites⟩, rfl⟩ := (takes_number (some 4)).sound hnumber
      exact ⟨written, ⟨by omega, .unsigned hwrites⟩, rfl⟩
  complete := by
    rintro y written rest ⟨hsize, hwrites⟩ hrest
    cases hwrites with
    | @minus n cs hwrites =>
      have hnumber := (takes_number none).complete ⟨by omega, hwrites⟩ hrest
      rw [List.cons_append, signedNumber, hnumber]
      rfl
    | @plus n cs hwrites =>
      have hnumber := (takes_number none).complete ⟨by omega, hwrites⟩ hrest
      rw [List.cons_append, signedNumber, hnumber]
      rfl
    | @unsigned n _ hwrites =>
      have hnumber := (takes_number (some 4)).complete ⟨by omega, hwrites⟩ hrest
      obtain ⟨ds, hne, -, -, rfl⟩ := hwrites
      have hdigit : ∀ n < 10, Char.ofNat (0x30 + n) ≠ '-' ∧ Char.ofNat (0x30 + n) ≠ '+' := by
        decide
      have hhead {c : Char} {cs : List Char} (hcs : (text ds).toList ++ rest = c :: cs) :
          c ≠ '-' ∧ c ≠ '+' := by
        obtain ⟨d, rfl⟩ := head?_text_append hne rest c (by rw [hcs]; rfl)
        exact hdigit d d.isLt
      -- a digit is neither of the signs, so the text is read by the last case
      rw [signedNumber.eq_def]
      split
      · next hcs => exact absurd rfl (hhead hcs).1
      · next hcs => exact absurd rfl (hhead hcs).2
      · rw [hnumber]
        rfl

theorem WritesYear.head? {y : Int} {cs : List Char} (h : WritesYear y cs) (rest : List Char) :
    ∀ c ∈ (cs ++ rest).head?, isBlank c = false := by
  cases h with
  | unsigned h => exact h.head? rest
  | plus h =>
    rintro c ⟨⟩
    decide
  | minus h =>
    rintro c ⟨⟩
    decide

theorem takes_anyYear : Takes (fun cs => signedNumber (skipBlanks cs)) fun y cs =>
    y.natAbs < 0x8000000000000000 ∧ AfterBlanks (WritesYear y) cs :=
  (takes_signedNumber.afterBlanks fun h => h.2.head?).congr fun _ _ => afterBlanks_and_iff

theorem year_eq (cs : List Char) : year cs = (do
    let (y, rest) ← signedNumber (skipBlanks cs)
    if -0x80000000 ≤ y ∧ y < 0x80000000 then .ok (y, rest) else .error .outOfRange) := by
  unfold year signedNumber
  rfl

theorem takes_year : Takes year fun y cs =>
    (-0x80000000 ≤ y ∧ y < 0x80000000) ∧ AfterBlanks (WritesYear y) cs := by
  have hchecked := takes_anyYear.checked (fun y => -0x80000000 ≤ y ∧ y < 0x80000000) .outOfRange
  rw [show year = _ from funext year_eq]
  refine hchecked.congr fun y cs => and_congr_right fun hbounds => ?_
  exact and_iff_right (by omega)

theorem literal_eq_ok_iff {c : Char} {cs rest : List Char} :
    literal c cs = .ok ((), rest) ↔ cs = c :: rest := by
  cases cs with
  | nil => simp [literal]
  | cons d cs =>
    rw [literal]
    split
    · next h => simp [h]
    · next h => simp [h]

/-! ### Dates -/

/-- A year, a month and a day with hyphens between them, each after blanks or none. -/
def WritesDate (y : Int) (m d : Nat) (cs : List Char) : Prop :=
  ∃ year month day, AfterBlanks (WritesYear y) year ∧ AfterBlanks (WritesDigits (some 2) m) month ∧
    AfterBlanks (WritesDigits (some 2) d) day ∧ cs = year ++ '-' :: (month ++ '-' :: day)

theorem head?_cons {c : Char} (hc : ofChar? c = none) (cs : List Char) :
    ∀ d ∈ (c :: cs).head?, ofChar? d = none := by
  rintro d ⟨⟩
  exact hc

theorem head?_hyphen (cs : List Char) : ∀ c ∈ ('-' :: cs).head?, ofChar? c = none :=
  head?_cons (by decide) cs

theorem head?_nil : ∀ c ∈ ([] : List Char).head?, ofChar? c = none := by
  rintro c ⟨⟩

/-- What is written as a date is read with what follows it; blanks there are skipped if they may
be. -/
theorem dateParts_append (loose : Bool) {y : Int} {m d : Nat} {written rest : List Char}
    (hy : -0x80000000 ≤ y ∧ y < 0x80000000) (hm : 1 ≤ m ∧ m ≤ 12) (hd : 1 ≤ d ∧ d ≤ 31)
    (h : WritesDate y m d written) (hrest : ∀ c ∈ rest.head?, ofChar? c = none) :
    dateParts loose (written ++ rest) =
      .ok ((y, m, d), if loose then skipBlanks rest else rest) := by
  obtain ⟨year, month, day, hyear, hmonth, hday, rfl⟩ := h
  have hwritten : year ++ '-' :: (month ++ '-' :: day) ++ rest =
      year ++ '-' :: (month ++ '-' :: (day ++ rest)) := by
    simp
  have hspace (cs : List Char) :
      (if loose then skipBlanks ('-' :: cs) else '-' :: cs) = '-' :: cs := by
    rw [skipBlanks_cons (by decide), ite_self]
  -- a hyphen or the rest follows each part, so its reader takes all of it and no more
  have hyear := takes_year.complete ⟨hy, hyear⟩ (head?_hyphen (month ++ '-' :: (day ++ rest)))
  have hmonth := (takes_bounded 1 12).complete ⟨hm, hmonth⟩ (head?_hyphen (day ++ rest))
  have hday := (takes_bounded 1 31).complete ⟨hd, hday⟩ hrest
  rw [hwritten, dateParts]
  exact bind_eq_ok_iff.mpr ⟨_, hyear, bind_eq_ok_iff.mpr ⟨_, literal_eq_ok_iff.mpr (hspace _),
    bind_eq_ok_iff.mpr ⟨_, hmonth, bind_eq_ok_iff.mpr ⟨_, literal_eq_ok_iff.mpr (hspace _),
      bind_eq_ok_iff.mpr ⟨_, hday, rfl⟩⟩⟩⟩⟩

theorem dateParts_eq_ok_iff {y : Int} {m d : Nat} {cs : List Char} :
    dateParts false cs = .ok ((y, m, d), []) ↔
      (-0x80000000 ≤ y ∧ y < 0x80000000) ∧ (1 ≤ m ∧ m ≤ 12) ∧ (1 ≤ d ∧ d ≤ 31) ∧
        WritesDate y m d cs := by
  constructor
  · intro h
    obtain ⟨⟨y', _⟩, hyear, h⟩ := bind_eq_ok_iff.mp h
    obtain ⟨⟨⟨⟩, _⟩, hfirst, h⟩ := bind_eq_ok_iff.mp h
    obtain ⟨⟨m', _⟩, hmonth, h⟩ := bind_eq_ok_iff.mp h
    obtain ⟨⟨⟨⟩, _⟩, hsecond, h⟩ := bind_eq_ok_iff.mp h
    obtain ⟨⟨d', _⟩, hday, h⟩ := bind_eq_ok_iff.mp h
    obtain ⟨hparts, rfl⟩ := Prod.mk.inj (Except.ok.inj h)
    obtain ⟨rfl, rfl, rfl⟩ : y' = y ∧ m' = m ∧ d' = d := by simpa using hparts
    obtain rfl := literal_eq_ok_iff.mp hfirst
    obtain rfl := literal_eq_ok_iff.mp hsecond
    obtain ⟨year, ⟨hybounds, hwritesYear⟩, rfl⟩ := takes_year.sound hyear
    obtain ⟨month, ⟨hmbounds, hwritesMonth⟩, hafter⟩ := (takes_bounded 1 12).sound hmonth
    obtain ⟨day, ⟨hdbounds, hwritesDay⟩, hend⟩ := (takes_bounded 1 31).sound hday
    rw [List.append_nil] at hend
    exact ⟨hybounds, hmbounds, hdbounds, year, month, day, hwritesYear, hwritesMonth, hwritesDay,
      by rw [← hend, ← hafter]⟩
  · rintro ⟨hy, hm, hd, hwrites⟩
    have hparts := dateParts_append false hy hm hd hwrites head?_nil
    rwa [List.append_nil] at hparts

/-- A text writes one date only. -/
theorem WritesDate.unique {y z : Int} {m n d e : Nat} {cs : List Char}
    (hy : y.natAbs < 0x8000000000000000) (hz : z.natAbs < 0x8000000000000000)
    (h : WritesDate y m d cs) (h' : WritesDate z n e cs) : y = z ∧ m = n ∧ d = e := by
  obtain ⟨year, month, day, hyear, hmonth, hday, rfl⟩ := h
  obtain ⟨year', month', day', hyear', hmonth', hday', heq⟩ := h'
  obtain ⟨hsame, hafter⟩ := takes_anyYear.unique ⟨hy, hyear⟩ ⟨hz, hyear'⟩ (head?_hyphen _)
    (head?_hyphen _) heq
  obtain ⟨hsameMonth, hafter⟩ := takes_twoDigits.unique hmonth hmonth' (head?_hyphen _)
    (head?_hyphen _) (List.cons.inj hafter).2
  obtain ⟨hsameDay, -⟩ := takes_twoDigits.unique hday hday' head?_nil head?_nil
    (congrArg (· ++ []) (List.cons.inj hafter).2)
  exact ⟨hsame, hsameMonth, hsameDay⟩

/-! ### Numbers as they are written -/

theorem writesDigits_padded {width n : Nat} (hwidth : width ≠ 0) (h : n < 10 ^ width) :
    WritesDigits (some width) n (text (padded width n)).toList := by
  refine ⟨_, padded_ne_nil width n, ?_, value_padded width n, rfl⟩
  rintro w ⟨⟩
  exact Nat.le_of_eq (length_padded hwidth h)

/-- The text of a year: four digits, or a sign and at least four. -/
def yearText (y : Int) : String :=
  if 0 ≤ y ∧ y ≤ 9999 then text (padded 4 y.toNat)
  else (if y < 0 then "-" else "+") ++ text (padded 4 y.natAbs)

theorem writesYear_yearText (y : Int) : WritesYear y (yearText y).toList := by
  have hsigned (n : Nat) : WritesDigits none n (text (padded 4 n)).toList :=
    ⟨_, padded_ne_nil 4 n, nofun, value_padded 4 n, rfl⟩
  rw [yearText]
  split
  · next hplain =>
    have hyear : y = (y.toNat : Int) := by omega
    nth_rewrite 1 [hyear]
    exact .unsigned (writesDigits_padded (by decide) (by omega))
  · rw [String.toList_append]
    split
    · have hyear : y = -(y.natAbs : Int) := by omega
      nth_rewrite 1 [hyear]
      exact .minus (hsigned y.natAbs)
    · have hyear : y = (y.natAbs : Int) := by omega
      nth_rewrite 1 [hyear]
      exact .plus (hsigned y.natAbs)

end Timestamp

namespace Date

open Timestamp

theorem ofParts?_eq_some_iff {y : Int} {m d : Nat} {date : Date} :
    ofParts? y m d = some date ↔ date.year = y ∧ date.month = m ∧ date.day = d := by
  obtain ⟨year, month, day, hlower, hupper, hmonth, hday⟩ := date
  rw [ofParts?]
  constructor
  · intro h
    split at h
    · obtain ⟨rfl, rfl, rfl⟩ := Date.mk.inj (Option.some.inj h)
      exact ⟨rfl, rfl, rfl⟩
    · exact nomatch h
  · rintro ⟨rfl, rfl, rfl⟩
    exact dif_pos ⟨⟨hlower, hupper⟩, hmonth, hday⟩

theorem daysInMonth_le (year : Int) (month : Nat) : daysInMonth year month ≤ 31 := by
  rw [daysInMonth]
  split
  · split <;> decide
  · split <;> decide

/-- A text that a form field may give for a date: its year, month and day with hyphens between
them, in fewer digits or more, with a sign or after blanks. -/
def SpelledBy (d : Date) (s : String) : Prop := WritesDate d.year d.month d.day s.toList

theorem dateParts_of_spelledBy (loose : Bool) {d : Date} {s : String} {rest : List Char}
    (h : d.SpelledBy s) (hrest : ∀ c ∈ rest.head?, Digits.ofChar? c = none) :
    dateParts loose (s.toList ++ rest) =
      .ok ((d.year, d.month, d.day), if loose then skipBlanks rest else rest) := by
  have hlower := d.year_lower
  have hupper := d.year_upper
  have hday := d.day_valid
  have hmax := daysInMonth_le d.year d.month
  exact dateParts_append loose (by omega) d.month_valid (by omega) h hrest

theorem dateOf_parts (d : Date) : dateOf (d.year, d.month, d.day) = .ok d := by
  have hdate : ofParts? d.year d.month d.day = some d := ofParts?_eq_some_iff.mpr ⟨rfl, rfl, rfl⟩
  rw [dateOf, hdate]

/-- A text that spells a date is read as it, with blanks allowed or not. -/
theorem readAs_of_spelledBy (loose : Bool) {d : Date} {s : String} (h : d.SpelledBy s) :
    readAs loose s = .ok d := by
  have hparts := dateParts_of_spelledBy loose h head?_nil
  have hnil : (if loose then skipBlanks [] else []) = [] := by cases loose <;> rfl
  rw [List.append_nil, hnil] at hparts
  exact Outcome.bind_eq_ok_iff.mpr ⟨_, hparts, dateOf_parts d⟩

/-- **Dates of form fields are those a text spells.** -/
theorem read_eq_ok_iff {s : String} {d : Date} : read s = .ok d ↔ d.SpelledBy s := by
  refine ⟨fun h => ?_, readAs_of_spelledBy false⟩
  obtain ⟨⟨⟨y, m, n⟩, rest⟩, hparts, h⟩ := Outcome.bind_eq_ok_iff.mp h
  cases rest with
  | cons c rest => exact nomatch h
  | nil =>
    change dateOf (y, m, n) = .ok d at h
    rw [dateOf] at h
    split at h
    · next date hdate =>
      obtain rfl := Except.ok.inj h
      obtain ⟨rfl, rfl, rfl⟩ := ofParts?_eq_some_iff.mp hdate
      exact (dateParts_eq_ok_iff.mp hparts).2.2.2
    · exact nomatch h

/-! ### The text of a date -/

/-- **A date is spelled by its own text**, in any year. -/
theorem spelledBy_text (d : Date) : d.SpelledBy d.text := by
  have hmonth := d.month_valid
  have hday := d.day_valid
  have hmax := daysInMonth_le d.year d.month
  have htwo {n : Nat} (hn : n ≤ 31) :
      WritesDigits (some 2) n (Digits.text (Digits.padded 2 n)).toList :=
    writesDigits_padded (by decide) (by omega)
  refine ⟨_, _, _, afterBlanks_of (writesYear_yearText d.year), afterBlanks_of (htwo (by omega)),
    afterBlanks_of (htwo (by omega)), ?_⟩
  change (yearText d.year ++ "-" ++ Digits.text (Digits.padded 2 d.month) ++ "-" ++
    Digits.text (Digits.padded 2 d.day)).toList = _
  simp only [String.toList_append, List.append_assoc]
  rfl

theorem readLoose?_text (d : Date) : readLoose? d.text = some d := by
  rw [readLoose?, readAs_of_spelledBy true d.spelledBy_text]
  rfl

/-! ### ISO dates -/

/-- Four digits, two digits and two digits with hyphens between them. -/
def IsoDigits (ys ms ds : List Digit) (s : String) : Prop :=
  (ys.length = 4 ∧ ms.length = 2 ∧ ds.length = 2) ∧
    s.toList = (Digits.text ys).toList ++ '-' ::
      ((Digits.text ms).toList ++ '-' :: (Digits.text ds).toList)

/-- An ISO date that names a date: its digits are those of the year, the month and the day. -/
def NamedBy (d : Date) (s : String) : Prop :=
  ∃ ys ms ds, IsoDigits ys ms ds s ∧ d.year = Digits.value ys ∧ d.month = Digits.value ms ∧
    d.day = Digits.value ds

/-- The shape of an ISO date. -/
def HasIsoShape (s : String) : Prop := ∃ ys ms ds, IsoDigits ys ms ds s

theorem NamedBy.hasIsoShape {d : Date} {s : String} (h : d.NamedBy s) : HasIsoShape s := by
  obtain ⟨ys, ms, ds, hiso, -⟩ := h
  exact ⟨ys, ms, ds, hiso⟩

theorem HasIsoShape.length_eq {s : String} (h : HasIsoShape s) : s.length = 10 := by
  obtain ⟨ys, ms, ds, ⟨hys, hms, hds⟩, hs⟩ := h
  rw [← String.length_toList, hs]
  simp only [List.length_append, List.length_cons, Digits.length_text, hys, hms, hds]

theorem IsoDigits.writesDate {ys ms ds : List Digit} {s : String} (h : IsoDigits ys ms ds s) :
    WritesDate (Digits.value ys) (Digits.value ms) (Digits.value ds) s.toList := by
  obtain ⟨⟨hys, hms, hds⟩, hs⟩ := h
  have hdigits {width : Nat} {ns : List Digit} (hns : ns.length = width + 1) :
      WritesDigits (some (width + 1)) (Digits.value ns) (Digits.text ns).toList :=
    ⟨ns, List.ne_nil_of_length_eq_add_one hns, by rintro w ⟨⟩; omega, rfl, rfl⟩
  exact ⟨_, _, _, afterBlanks_of (.unsigned (hdigits hys)), afterBlanks_of (hdigits hms),
    afterBlanks_of (hdigits hds), hs⟩

theorem NamedBy.spelledBy {d : Date} {s : String} (h : d.NamedBy s) : d.SpelledBy s := by
  obtain ⟨ys, ms, ds, hiso, hyear, hmonth, hday⟩ := h
  rw [SpelledBy, hyear, hmonth, hday]
  exact hiso.writesDate

/-- **In the shape of an ISO date, a date is spelled exactly if it is named.** -/
theorem spelledBy_iff_namedBy {d : Date} {s : String} (hshape : HasIsoShape s) :
    d.SpelledBy s ↔ d.NamedBy s := by
  refine ⟨fun h => ?_, NamedBy.spelledBy⟩
  obtain ⟨ys, ms, ds, hiso⟩ := hshape
  have hlower := d.year_lower
  have hupper := d.year_upper
  have hvalue := Digits.value_lt_pow ys
  rw [hiso.1.1] at hvalue
  exact ⟨ys, ms, ds, hiso, WritesDate.unique (by omega) (by omega) h hiso.writesDate⟩

/-- **An ISO date is the text of the date it names.** -/
theorem NamedBy.text_eq {d : Date} {s : String} (h : d.NamedBy s) : d.text = s := by
  obtain ⟨ys, ms, ds, ⟨⟨hys, hms, hds⟩, hs⟩, hyear, hmonth, hday⟩ := h
  have hvalue := Digits.value_lt_pow ys
  rw [hys] at hvalue
  have hpadded {width : Nat} {ns : List Digit} (hns : ns.length = width + 1) :
      Digits.padded (width + 1) (Digits.value ns) = ns := by
    rw [← hns]
    exact Digits.padded_value (List.ne_nil_of_length_eq_add_one hns)
  have hyears : Digits.padded 4 d.year.toNat = ys := by
    rw [hyear, Int.toNat_natCast, hpadded hys]
  rw [text, if_pos (by omega), hyears, hmonth, hday, hpadded hms, hpadded hds, ← String.toList_inj,
    hs]
  simp only [String.toList_append, List.append_assoc]
  rfl

end Date

end TokenAuth
