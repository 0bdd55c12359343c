import TokenAuth.Password.Argon2Hash
import TokenAuth.Proofs.Base64
import TokenAuth.Proofs.Digits
import TokenAuth.Proofs.Split

/-!
# What one field of a hash is written as

Every name, value, number, list of parameters, salt and digest that is read has one text, and what
may be read is a condition on it alone: one statement for each reader, with both directions.
-/

namespace TokenAuth.Password.HashFields

open Outcome

/-! ### Texts -/

/-- A number as it is written. -/
def decimal (n : Nat) : String := Digits.text (Digits.ofNat n)

def IsName (s : String) : Prop :=
  s ≠ "" ∧ s.utf8ByteSize ≤ 32 ∧ ∀ c ∈ s.toList, isNameChar c = true

def IsValue (s : String) : Prop :=
  s.utf8ByteSize ≤ 64 ∧ ∀ c ∈ s.toList, isValueChar c = true

def IsParam (param : String × String) : Prop := IsName param.1 ∧ IsValue param.2

instance (s : String) : Decidable (IsName s) :=
  decidable_of_iff (s ≠ "" ∧ s.utf8ByteSize ≤ 32 ∧ s.toList.all isNameChar = true)
    (by rw [IsName, List.all_eq_true])

instance (s : String) : Decidable (IsValue s) :=
  decidable_of_iff (s.utf8ByteSize ≤ 64 ∧ s.toList.all isValueChar = true)
    (by rw [IsValue, List.all_eq_true])

instance (param : String × String) : Decidable (IsParam param) :=
  inferInstanceAs (Decidable (_ ∧ _))

def paramText (param : String × String) : String := param.1 ++ "=" ++ param.2

def paramsText (params : List (String × String)) : String := ",".intercalate (params.map paramText)

/-! ### Names, values and numbers -/

theorem eq_toList_iff {cs : List Char} {s : String} : cs = s.toList ↔ String.ofList cs = s := by
  rw [← String.toList_inj, String.toList_ofList]

theorem readName_eq_ok_iff {cs : List Char} {s : String} :
    readName cs = .ok s ↔ IsName s ∧ cs = s.toList := by
  rw [readName, eq_toList_iff]
  constructor
  · intro h
    split at h
    · next hname =>
      obtain rfl := Except.ok.inj h
      obtain ⟨hlength, hsize, hall⟩ := hname
      refine ⟨⟨?_, hsize, ?_⟩, rfl⟩
      · rw [ne_eq, ← String.toList_eq_nil_iff, String.toList_ofList]
        rintro rfl
        exact absurd hlength (by decide)
      · rw [String.toList_ofList]
        exact List.all_eq_true.mp hall
    · exact nomatch h
  · rintro ⟨⟨hne, hsize, hall⟩, rfl⟩
    rw [String.toList_ofList] at hall
    have hlength : 1 ≤ cs.length := by
      apply List.length_pos_iff.mpr
      rintro rfl
      exact hne rfl
    rw [if_pos ⟨hlength, hsize, List.all_eq_true.mpr hall⟩]

theorem readValue_eq_ok_iff {cs : List Char} {s : String} :
    readValue cs = .ok s ↔ IsValue s ∧ cs = s.toList := by
  rw [readValue, eq_toList_iff]
  constructor
  · intro h
    split at h
    · exact nomatch h
    next hsize =>
    split at h
    · exact nomatch h
    next hnone =>
    obtain rfl := Except.ok.inj h
    refine ⟨⟨Nat.le_of_not_lt hsize, ?_⟩, rfl⟩
    intro c hc
    rw [String.toList_ofList] at hc
    simpa using List.find?_eq_none.mp hnone c hc
  · rintro ⟨⟨hsize, hall⟩, rfl⟩
    rw [String.toList_ofList] at hall
    have hnone : cs.find? (fun c => !isValueChar c) = none := by
      rw [List.find?_eq_none]
      intro c hc
      simp [hall c hc]
    have hshort : ¬64 < byteSize cs := Nat.not_lt.mpr hsize
    rw [if_neg hshort, hnone]

theorem find?_digit_eq_none_iff {cs : List Char} :
    cs.find? (fun c => (Digits.ofChar? c).isNone) = none ↔
      ∃ ds, cs = (Digits.text ds).toList := by
  simp only [← Digits.mapM_ofChar?_eq_some_iff]
  rw [exists_mapM_iff, List.find?_eq_none]
  simp only [← Option.isSome_iff_exists, Bool.not_eq_true, Option.isNone_eq_false_iff]

theorem readDecimal_text {ds : List Digit} (hne : ds ≠ []) :
    readDecimal (Digits.text ds) =
      if (ds.head? = some 0 ∧ ds.length ≠ 1) ∨ 0x100000000 ≤ Digits.value ds then .error .format
      else .ok (Digits.value ds) := by
  have hempty : (Digits.text ds).toList.isEmpty = false :=
    List.isEmpty_eq_false_iff.mpr (mt Digits.toList_text_eq_nil_iff.mp hne)
  have hvalue : Digits.nat? (Digits.text ds).toList = some (Digits.value ds) :=
    Digits.nat?_eq_some_iff.mpr ⟨ds, hne, rfl, rfl⟩
  simp only [readDecimal, hempty, find?_digit_eq_none_iff.mpr ⟨ds, rfl⟩, hvalue,
    Digits.head?_text_eq_zero_iff, Digits.length_text, Option.getD_some, Bool.false_eq_true, if_false]

theorem exists_text_of_readDecimal {s : String} {n : Nat} (h : readDecimal s = .ok n) :
    ∃ ds, ds ≠ [] ∧ s = Digits.text ds := by
  simp only [readDecimal] at h
  split at h
  · exact nomatch h
  next hempty =>
  split at h
  · exact nomatch h
  next hnone =>
  obtain ⟨ds, hds⟩ := find?_digit_eq_none_iff.mp hnone
  refine ⟨ds, ?_, String.toList_inj.mp hds⟩
  rintro rfl
  exact hempty (by rw [hds]; rfl)

theorem readDecimal_eq_ok_iff {s : String} {n : Nat} :
    readDecimal s = .ok n ↔ n < 0x100000000 ∧ s = decimal n := by
  constructor
  · intro h
    obtain ⟨ds, hne, rfl⟩ := exists_text_of_readDecimal h
    rw [readDecimal_text hne] at h
    split at h
    · exact nomatch h
    next hform =>
    obtain ⟨hlead, hsmall⟩ := not_or.mp hform
    obtain rfl := Except.ok.inj h
    refine ⟨Nat.lt_of_not_le hsmall, ?_⟩
    rw [decimal, Digits.ofNat_value hne fun hhead => by_contra fun hlong => hlead ⟨hhead, hlong⟩]
  · rintro ⟨hsmall, rfl⟩
    have hlead : ¬((Digits.ofNat n).head? = some 0 ∧ (Digits.ofNat n).length ≠ 1) :=
      fun h => h.2 (Digits.length_ofNat_of_leading_zero h.1)
    rw [decimal, readDecimal_text (Digits.ofNat_ne_nil n), Digits.value_ofNat,
      if_neg (not_or.mpr ⟨hlead, Nat.not_le.mpr hsmall⟩)]

theorem isValue_decimal {n : Nat} (h : n < 0x100000000) : IsValue (decimal n) := by
  constructor
  · have hsize : (decimal n).utf8ByteSize = (Digits.ofNat n).length :=
      (congrArg List.length (Digits.utf8_text (Digits.ofNat n))).trans (List.length_map _)
    -- The greatest of these numbers has ten digits.
    have hlength : (Digits.ofNat n).length ≤ (Digits.ofNat 0xFFFFFFFF).length :=
      Digits.length_ofNat_mono (by omega)
    have hmost : (Digits.ofNat 0xFFFFFFFF).length = 10 := by decide +kernel
    omega
  · intro c hc
    have hdigit : ∀ d : Digit, isValueChar (Char.ofNat (0x30 + d.val)) = true := by decide
    rw [decimal, Digits.toList_text, List.mem_map] at hc
    obtain ⟨d, -, rfl⟩ := hc
    exact hdigit d

/-! ### Parameters -/

theorem IsName.not_mem {s : String} (h : IsName s) {c : Char} (hc : isNameChar c = false) :
    c ∉ s.toList := by
  intro hmem
  rw [h.2.2 c hmem] at hc
  exact nomatch hc

theorem IsValue.not_mem {s : String} (h : IsValue s) {c : Char} (hc : isValueChar c = false) :
    c ∉ s.toList := by
  intro hmem
  rw [h.2 c hmem] at hc
  exact nomatch hc

theorem readParam_eq_ok_iff {cs : List Char} {param : String × String} :
    readParam cs = .ok param ↔ IsParam param ∧ cs = (paramText param).toList := by
  obtain ⟨name, value⟩ := param
  have htext : cs = (paramText (name, value)).toList ↔ cs = name.toList ++ '=' :: value.toList := by
    simp [paramText]
  rw [htext]
  constructor
  · intro h
    unfold readParam at h
    split at h
    · exact nomatch h
    next first rest hsplit =>
    obtain ⟨name', hreadName, hrest⟩ := bind_eq_ok_iff.mp h
    obtain ⟨hname, rfl⟩ := readName_eq_ok_iff.mp hreadName
    cases rest with
    | nil => exact nomatch hrest
    | cons second more =>
      obtain ⟨value', hreadValue, hend⟩ := bind_eq_ok_iff.mp hrest
      obtain ⟨hvalue, rfl⟩ := readValue_eq_ok_iff.mp (mapError_eq_ok_iff.mp hreadValue)
      split at hend
      · next hmore =>
        obtain ⟨rfl, rfl⟩ := Prod.mk.inj (Except.ok.inj hend)
        rw [List.isEmpty_iff.mp hmore, Text.splitOn_eq_cons_cons_iff] at hsplit
        obtain ⟨after, rfl, -, hafter⟩ := hsplit
        obtain ⟨rfl, -⟩ := Text.splitOn_eq_singleton_iff.mp hafter
        exact ⟨⟨hname, hvalue⟩, rfl⟩
      · exact nomatch hend
  · rintro ⟨⟨hname, hvalue⟩, rfl⟩
    have hsplit : Text.splitOn (· == '=') (name.toList ++ '=' :: value.toList) =
        [name.toList, value.toList] := by
      rw [Text.splitOn_eq_cons_cons_iff]
      exact ⟨_, rfl, hname.not_mem (by decide),
        Text.splitOn_eq_singleton_iff.mpr ⟨rfl, hvalue.not_mem (by decide)⟩⟩
    have hreadName : readName name.toList = .ok name := readName_eq_ok_iff.mpr ⟨hname, rfl⟩
    have hreadValue : readValue value.toList = .ok value := readValue_eq_ok_iff.mpr ⟨hvalue, rfl⟩
    simp only [readParam, hsplit, hreadName, hreadValue, mapError_ok]
    rfl

theorem IsParam.not_mem {param : String × String} (h : IsParam param) {c : Char}
    (hname : isNameChar c = false) (hvalue : isValueChar c = false) (hc : c ≠ '=') :
    c ∉ (paramText param).toList := by
  have hequals : "=".toList = ['='] := rfl
  simp only [paramText, String.toList_append, hequals, List.mem_append, List.mem_singleton]
  rintro ((hmem | rfl) | hmem)
  · exact h.1.not_mem hname hmem
  · exact hc rfl
  · exact h.2.not_mem hvalue hmem

theorem toList_paramsText (params : List (String × String)) :
    (paramsText params).toList =
      [','].intercalate (params.map fun param => (paramText param).toList) := by
  rw [paramsText, String.toList_intercalate, List.map_map]
  rfl

theorem readParams_eq_ok_iff {cs : List Char} {params : List (String × String)} :
    readParams cs = .ok params ↔ params ≠ [] ∧ (paramsText params).utf8ByteSize ≤ 127 ∧
      (∀ param ∈ params, IsParam param) ∧ cs = (paramsText params).toList := by
  have hread : (Text.splitOn (· == ',') cs).mapM readParam = .ok params ↔
      params ≠ [] ∧ (∀ param ∈ params, IsParam param) ∧ cs = (paramsText params).toList := by
    rw [mapM_eq_ok_iff_map fun _ _ => readParam_eq_ok_iff, Text.splitOn_eq_iff,
      ← toList_paramsText]
    simp only [ne_eq, List.map_eq_nil_iff, List.forall_mem_map]
    constructor
    · rintro ⟨hparam, hne, hcs, -⟩
      exact ⟨hne, hparam, hcs⟩
    · rintro ⟨hne, hparam, hcs⟩
      refine ⟨hparam, hne, hcs, fun param hmem => ?_⟩
      exact (hparam param hmem).not_mem (by decide) (by decide) (by decide)
  rw [readParams]
  constructor
  · intro h
    split at h
    · exact nomatch h
    next hsize =>
    obtain ⟨hne, hparam, hcs⟩ := hread.mp h
    rw [byteSize, hcs, String.ofList_toList] at hsize
    exact ⟨hne, Nat.le_of_not_lt hsize, hparam, hcs⟩
  · rintro ⟨hne, hsize, hparam, hcs⟩
    have hshort : ¬127 < byteSize cs := by
      rw [byteSize, hcs, String.ofList_toList]
      exact Nat.not_lt.mpr hsize
    rw [if_neg hshort]
    exact hread.mpr ⟨hne, hparam, hcs⟩

/-! ### Salts and digests -/

theorem readSalt_eq_ok_iff {cs : List Char} {salt : String} :
    readSalt cs = .ok salt ↔ (4 ≤ salt.utf8ByteSize ∧ IsValue salt) ∧ cs = salt.toList := by
  rw [readSalt]
  constructor
  · intro h
    split at h
    · exact nomatch h
    next hsize =>
    obtain ⟨hvalue, rfl⟩ := readValue_eq_ok_iff.mp (mapError_eq_ok_iff.mp h)
    rw [byteSize, String.ofList_toList] at hsize
    exact ⟨⟨Nat.le_of_not_lt hsize, hvalue⟩, rfl⟩
  · rintro ⟨⟨hsize, hvalue⟩, rfl⟩
    have hlong : ¬byteSize salt.toList < 4 := by
      rw [byteSize, String.ofList_toList]
      exact Nat.not_lt.mpr hsize
    rw [if_neg hlong, mapError_eq_ok_iff]
    exact readValue_eq_ok_iff.mpr ⟨hvalue, rfl⟩

theorem utf8_encodeBase64 (bs : Bytes) :
    utf8 (Argon2Hash.encodeBase64 bs) = Base64.encode .standard .none bs :=
  Base64.utf8_ofAscii_encode .standard .none bs

theorem byteSize_encodeBase64 (bs : Bytes) :
    (Argon2Hash.encodeBase64 bs).utf8ByteSize = (4 * bs.length + 2) / 3 := by
  rw [← Base64.length_encode_none .standard, ← utf8_encodeBase64]
  rfl

theorem isValueChar_of_mem (bs : Bytes) :
    ∀ c ∈ (Argon2Hash.encodeBase64 bs).toList, isValueChar c = true := by
  intro c hc
  obtain ⟨n, hn, rfl⟩ := Base64.symbol_of_mem_text hc
  have hall : ∀ n < 64,
      isValueChar (Char.ofNat (Base64.Alphabet.standard.symbol n).toNat) = true := by
    decide
  exact hall n hn

/-- The length that a digest is given before it is decoded is its length. -/
theorem decodedLength (n : Nat) : (4 * n + 2) / 3 / 4 * 3 + (4 * n + 2) / 3 % 4 * 3 / 4 = n := by
  omega

theorem readDigest_eq_ok_iff {cs : List Char} {digest : Bytes} :
    readDigest cs = .ok digest ↔ (10 ≤ digest.length ∧ digest.length ≤ 64) ∧
      cs = (Argon2Hash.encodeBase64 digest).toList := by
  have htext : cs = (Argon2Hash.encodeBase64 digest).toList ↔
      utf8 (String.ofList cs) = Base64.encode .standard .none digest := by
    rw [eq_toList_iff, ← utf8_encodeBase64]
    exact ⟨congrArg utf8, utf8_injective⟩
  rw [htext, readDigest]
  constructor
  · intro h
    split at h
    · exact nomatch h
    next hlong =>
    split at h
    · exact nomatch h
    next read hdecode =>
    split at h
    · exact nomatch h
    next hshort =>
    obtain rfl := Except.ok.inj h
    have hwritten := Base64.decode?_eq_some_iff.mp hdecode
    rw [hwritten, Base64.length_encode_none, decodedLength] at hlong
    exact ⟨⟨Nat.le_of_not_lt hshort, Nat.le_of_not_lt hlong⟩, hwritten⟩
  · rintro ⟨⟨hshort, hlong⟩, hwritten⟩
    rw [hwritten, Base64.length_encode_none, decodedLength, if_neg (Nat.not_lt.mpr hlong),
      Base64.decode?_encode]
    exact if_neg (Nat.not_lt.mpr hshort)

end TokenAuth.Password.HashFields
