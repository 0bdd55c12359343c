import Mathlib.Algebra.Group.Nat.Defs
import Mathlib.Data.List.Induction
import TokenAuth.Proofs.Outcome
import TokenAuth.Text.Digits

/-!
# Digits read back

The digits of a number are read from what follows them, and the number from its digits. A text is
read as a number exactly if it is digits (`nat?_eq_some_iff`), and without leading zeros they are
the digits of that number (`ofNat_value`).
-/

namespace TokenAuth.Digits

/-! ### Bytes -/

theorem take_toBytes_append (ds : List Digit) {rest : Bytes}
    (hrest : ∀ b ∈ rest.head?, ofByte? b = none) : take (toBytes ds ++ rest) = (ds, rest) := by
  induction ds with
  | nil =>
    cases rest with
    | nil => rfl
    | cons b rest =>
      have hb : ofByte? b = none := hrest b rfl
      simp [toBytes, take, hb]
  | cons d ds ih =>
    have ih : take (toBytes ds ++ rest) = (ds, rest) := ih
    change take (toByte d :: (toBytes ds ++ rest)) = (d :: ds, rest)
    simp only [take, ofByte?_toByte, ih]

theorem ofNat_ne_nil (n : Nat) : ofNat n ≠ [] := by
  rw [ofNat]
  split <;> simp

/-- Only zero is written with a leading zero. -/
theorem head?_ofNat_ne_zero {n : Nat} (hn : n ≠ 0) : ∀ d ∈ (ofNat n).head?, d.val ≠ 0 := by
  induction n using Nat.strongRecOn with
  | ind n ih =>
    intro d hd
    rw [ofNat] at hd
    split at hd
    · next hlt =>
      simp only [List.head?_cons, Option.mem_def, Option.some.injEq] at hd
      rw [← hd, Fin.val_ofNat, Nat.mod_eq_of_lt hlt]
      exact hn
    · obtain ⟨e, es, he⟩ := List.exists_cons_of_ne_nil (ofNat_ne_nil (n / 10))
      refine ih (n / 10) (by omega) (by omega) d ?_
      rw [he] at hd ⊢
      exact hd

theorem length_ofNat_mono {n m : Nat} (h : n ≤ m) : (ofNat n).length ≤ (ofNat m).length := by
  induction m using Nat.strongRecOn generalizing n with
  | ind m ih =>
    rw [ofNat, ofNat.eq_1 m]
    split <;> split
    · exact Nat.le_refl _
    · simp
    · omega
    · rw [List.length_append, List.length_append]
      have hrest : (ofNat (n / 10)).length ≤ (ofNat (m / 10)).length :=
        ih (m / 10) (by omega) (by omega)
      simpa using hrest

/-- Digits without leading zeros are the digits of what they write. -/
theorem ofNat_value {ds : List Digit} (hne : ds ≠ []) (hlead : ds.head? = some 0 → ds.length = 1) :
    ofNat (value ds) = ds := by
  induction ds using List.reverseRecOn with
  | nil => exact absurd rfl hne
  | append_singleton ds d ih =>
    cases ds with
    | nil =>
      have hvalue : value ([] ++ [d]) = d.val := by simp [value]
      rw [hvalue, ofNat, if_pos d.isLt, Fin.ofNat_val_eq_self, List.nil_append]
    | cons e es =>
      have he : e ≠ 0 := by
        rintro rfl
        have := hlead rfl
        simp at this
      have hrest : ofNat (value (e :: es)) = e :: es := ih (by simp) (by simp [he])
      have hpos : value (e :: es) ≠ 0 := by
        intro hzero
        rw [hzero, ofNat, if_pos (by decide)] at hrest
        exact he (List.cons.inj hrest).1.symm
      rw [value_append_singleton, ofNat, if_neg (by omega)]
      congr 1
      · rw [show (10 * value (e :: es) + d.val) / 10 = value (e :: es) by omega, hrest]
      · congr 1
        apply Fin.ext
        rw [Fin.val_ofNat]
        omega

theorem length_ofNat_of_leading_zero {n : Nat} (h : (ofNat n).head? = some 0) :
    (ofNat n).length = 1 := by
  by_cases hn : n = 0
  · rw [hn, ofNat, if_pos (by decide)]
    rfl
  · exact absurd rfl (head?_ofNat_ne_zero hn 0 h)

/-! ### Characters -/

theorem ofChar?_of_digit (d : Digit) : ofChar? (Char.ofNat (0x30 + d.val)) = some d := by
  revert d; decide

theorem ofChar?_eq_some_iff {c : Char} {d : Digit} :
    ofChar? c = some d ↔ c = Char.ofNat (0x30 + d.val) := by
  constructor
  · intro h
    rw [ofChar?] at h
    split at h
    · next hrange =>
      obtain rfl := Option.some.inj h
      rw [Nat.add_sub_cancel' hrange.1, Char.ofNat_toNat]
    · exact nomatch h
  · rintro rfl
    exact ofChar?_of_digit d

theorem toList_text (ds : List Digit) :
    (text ds).toList = ds.map fun d => Char.ofNat (0x30 + d.val) :=
  String.toList_ofList

theorem length_text (ds : List Digit) : (text ds).toList.length = ds.length := by
  rw [toList_text, List.length_map]

theorem text_append (ds es : List Digit) :
    (text (ds ++ es)).toList = (text ds).toList ++ (text es).toList := by
  simp only [toList_text, List.map_append]

theorem toList_text_eq_nil_iff {ds : List Digit} : (text ds).toList = [] ↔ ds = [] := by
  rw [toList_text, List.map_eq_nil_iff]

theorem head?_text_eq_zero_iff {ds : List Digit} :
    (text ds).toList.head? = some '0' ↔ ds.head? = some 0 := by
  have hdigit : ∀ d : Digit, Char.ofNat (0x30 + d.val) = '0' ↔ d = 0 := by decide
  cases ds with
  | nil => simp [toList_text]
  | cons d ds => simp [toList_text, hdigit]

theorem takeChars_text_append (ds : List Digit) {rest : List Char}
    (hrest : ∀ c ∈ rest.head?, ofChar? c = none) :
    takeChars ((text ds).toList ++ rest) = (ds, rest) := by
  rw [toList_text]
  induction ds with
  | nil =>
    cases rest with
    | nil => rfl
    | cons c rest =>
      have hc : ofChar? c = none := hrest c rfl
      simp [takeChars, hc]
  | cons d ds ih => simp [takeChars, ofChar?_of_digit, ih]

theorem text_takeChars_append (cs : List Char) :
    (text (takeChars cs).1).toList ++ (takeChars cs).2 = cs := by
  induction cs with
  | nil => rfl
  | cons c cs ih =>
    rw [takeChars]
    split
    · next d hd =>
      rw [toList_text] at ih ⊢
      rw [List.map_cons, List.cons_append, ih, ofChar?_eq_some_iff.mp hd]
    · rfl

theorem mapM_ofChar?_eq_some_iff {cs : List Char} {ds : List Digit} :
    cs.mapM ofChar? = some ds ↔ cs = (text ds).toList := by
  rw [toList_text]
  exact Outcome.mapM_eq_some_iff_map fun _ _ => ofChar?_eq_some_iff

theorem nat?_eq_some_iff {cs : List Char} {n : Nat} :
    nat? cs = some n ↔ ∃ ds, ds ≠ [] ∧ cs = (text ds).toList ∧ value ds = n := by
  rw [nat?]
  split
  · next hempty =>
    rw [List.isEmpty_iff.mp hempty]
    simp only [reduceCtorEq, false_iff, not_exists, not_and]
    intro ds hne htext
    exact absurd (toList_text_eq_nil_iff.mp htext.symm) hne
  · next hne =>
    simp only [Option.map_eq_some_iff, mapM_ofChar?_eq_some_iff]
    constructor
    · rintro ⟨ds, rfl, hvalue⟩
      exact ⟨ds, mt toList_text_eq_nil_iff.mpr (mt List.isEmpty_iff.mpr hne), rfl, hvalue⟩
    · rintro ⟨ds, -, hcs, hvalue⟩
      exact ⟨ds, hcs, hvalue⟩

theorem value_zeros_append (count : Nat) (ds : List Digit) :
    value (zeros count ++ ds) = value ds := by
  induction count with
  | zero => rfl
  | succ count ih => rw [← ih]; simp [value, zeros, List.replicate_succ]

theorem value_padded (width n : Nat) : value (padded width n) = n := by
  rw [padded, value_zeros_append, value_ofNat]

theorem padded_ne_nil (width n : Nat) : padded width n ≠ [] :=
  List.append_ne_nil_of_right_ne_nil _ (ofNat_ne_nil n)

theorem length_ofNat_le {width n : Nat} (hwidth : width ≠ 0) (h : n < 10 ^ width) :
    (ofNat n).length ≤ width := by
  induction width generalizing n with
  | zero => exact absurd rfl hwidth
  | succ width ih =>
    rw [ofNat]
    split
    · simp
    · next hn =>
      rw [Nat.pow_succ] at h
      have hne : width ≠ 0 := by
        rintro rfl
        omega
      have hrest : (ofNat (n / 10)).length ≤ width := ih hne (by omega)
      rw [List.length_append, List.length_singleton]
      omega

theorem length_padded {width n : Nat} (hwidth : width ≠ 0) (h : n < 10 ^ width) :
    (padded width n).length = width := by
  have hle := length_ofNat_le hwidth h
  rw [padded, zeros, List.length_append, List.length_replicate]
  omega

/-- Digits are those of their number with as many zeros in front as it takes. -/
theorem padded_value {ds : List Digit} (hne : ds ≠ []) : padded ds.length (value ds) = ds := by
  induction ds with
  | nil => exact absurd rfl hne
  | cons d ds ih =>
    by_cases hlead : d = 0 ∧ ds ≠ []
    · obtain ⟨rfl, hrest⟩ := hlead
      have hpadded := ih hrest
      have hvalue : value (0 :: ds) = value ds := value_zeros_append 1 ds
      have hlength := congrArg List.length hpadded
      rw [padded, zeros, List.length_append, List.length_replicate] at hlength
      have hzeros : (ds.length + 1) - (ofNat (value ds)).length =
          ds.length - (ofNat (value ds)).length + 1 := by
        omega
      rw [hvalue, padded, List.length_cons, hzeros, zeros, List.replicate_succ, List.cons_append]
      exact congrArg (0 :: ·) hpadded
    · have hself : ofNat (value (d :: ds)) = d :: ds := by
        refine ofNat_value (by simp) fun hhead => ?_
        have hd : d = 0 := Option.some.inj hhead
        have hnil : ds = [] := by
          by_contra hrest
          exact hlead ⟨hd, hrest⟩
        simp [hnil]
      rw [padded, hself, Nat.sub_self]
      rfl

theorem value_lt_pow (ds : List Digit) : value ds < 10 ^ ds.length := by
  induction ds using List.reverseRecOn with
  | nil => decide
  | append_singleton ds d ih =>
    rw [value_append_singleton, List.length_append, List.length_singleton, Nat.pow_succ]
    omega

theorem not_mem_text {c : Char} (h : ∀ n < 10, c ≠ Char.ofNat (0x30 + n)) (ds : List Digit) :
    c ∉ (text ds).toList := by
  rw [toList_text, List.mem_map]
  rintro ⟨d, -, rfl⟩
  exact h d.val d.isLt rfl

theorem utf8_text (ds : List Digit) : utf8 (text ds) = toBytes ds := by
  have hchar : ∀ d : Digit, Char.ofNat (0x30 + d.val) = Char.ofNat (toByte d).toNat := by decide
  have hbyte : ∀ d : Digit, (toByte d).toNat < 0x80 := by decide
  have htext : text ds = ofAscii (toBytes ds) := by
    simp [text, ofAscii, toBytes, hchar, Function.comp_def]
  rw [htext, utf8_ofAscii]
  intro b hb
  obtain ⟨d, -, rfl⟩ := List.mem_map.mp hb
  exact hbyte d

end TokenAuth.Digits
