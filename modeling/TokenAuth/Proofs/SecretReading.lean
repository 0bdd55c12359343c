import TokenAuth.Proofs.Trimmed
import TokenAuth.Secret

/-!
# Secrets read exactly

What a secret is read as, for every text: the bytes it is Base64 of where those are enough for a
key, else its own. Main statement: `decode_exact`.
-/

namespace TokenAuth

namespace Base64

/-- A text is standard Base64 of some bytes, with padding or without. -/
def Writes (text bytes : Bytes) : Prop :=
  text = encode .standard .full bytes ∨ text = encode .standard .none bytes

/-- With padding, what is missing of the last three bytes is filled up. -/
theorem encode_full (alphabet : Alphabet) (bs : Bytes) :
    encode alphabet .full bs =
      encode alphabet .none bs ++ List.replicate ((3 - bs.length % 3) % 3) pad := by
  fun_induction encode alphabet .none bs with
  | case1 => rfl
  | case2 a n => rfl
  | case3 a b n => rfl
  | case4 a b c rest n ih =>
    rw [encode, ih, List.length_cons, List.length_cons, List.length_cons,
      show rest.length + 1 + 1 + 1 = rest.length + 3 from rfl, Nat.add_mod_right]
    rfl

theorem pad_not_mem_encode_none (bs : Bytes) : pad ∉ encode .standard .none bs := by
  intro h
  obtain ⟨n, hn, hpad⟩ := mem_encode_none h
  exact Alphabet.symbol_ne_pad .standard hn hpad.symm

theorem bytes_eq_of_encode_full_eq {bs cs : Bytes}
    (h : encode .standard .full bs = encode .standard .none cs) : bs = cs := by
  rw [encode_full] at h
  -- Padding stands in no text without it, so there is none to fill up.
  have hzero : (3 - bs.length % 3) % 3 = 0 := by
    by_contra hne
    apply pad_not_mem_encode_none cs
    rw [← h, List.mem_append]
    exact .inr (List.mem_replicate.mpr ⟨hne, rfl⟩)
  rw [hzero, List.replicate_zero, List.append_nil] at h
  exact encode_injective .standard .none h

/-- A text is Base64 of one byte string only, whichever way it is padded. -/
theorem Writes.unique {text bs cs : Bytes} (hbs : Writes text bs) (hcs : Writes text cs) :
    bs = cs := by
  rcases hbs with rfl | rfl <;> rcases hcs with h | h
  · exact encode_injective .standard .full h
  · exact bytes_eq_of_encode_full_eq h
  · exact (bytes_eq_of_encode_full_eq h.symm).symm
  · exact encode_injective .standard .none h

theorem Writes.visible {text bytes : Bytes} (h : Writes text bytes) :
    ∀ b ∈ text, 0x20 < b.toNat ∧ b.toNat < 0x7F := by
  rcases h with rfl | rfl
  · exact visible_encode .standard .full bytes
  · exact visible_encode .standard .none bytes

theorem decode?_or_eq_some_iff {text bytes : Bytes} :
    (decode? .standard .full text).or (decode? .standard .none text) = some bytes ↔
      Writes text bytes := by
  rw [Writes]
  cases hfull : decode? .standard .full text with
  | none =>
    have hnot : text ≠ encode .standard .full bytes := by
      intro h
      rw [decode?_eq_some_iff.mpr h] at hfull
      exact nomatch hfull
    simp only [Option.none_or, decode?_eq_some_iff, hnot, false_or]
  | some found =>
    have hfound : Writes text found := .inl (decode?_eq_some_iff.mp hfull)
    rw [Option.some_or, Option.some.injEq]
    constructor
    · rintro rfl
      exact hfound
    · exact hfound.unique

end Base64

namespace SigningSecret

open Base64 (Writes)

theorem decodeBase64?_eq_some_iff {text bytes : Bytes} :
    decodeBase64? text = some bytes ↔ 32 ≤ bytes.length ∧ Writes text bytes := by
  rw [decodeBase64?, Option.filter_eq_some_iff, Base64.decode?_or_eq_some_iff, decide_eq_true_eq,
    minLength]
  exact and_comm

theorem decodeBase64?_eq_none_iff {text : Bytes} :
    decodeBase64? text = none ↔ ∀ bytes, Writes text bytes → bytes.length < 32 := by
  rw [Option.eq_none_iff_forall_ne_some]
  refine forall_congr' fun bytes => ?_
  rw [ne_eq, decodeBase64?_eq_some_iff, not_and, Nat.lt_iff_add_one_le]
  constructor
  · intro h hwrites
    by_contra hlong
    exact h (by omega) hwrites
  · intro h hlong hwrites
    have := h hwrites
    omega

theorem getD_decodeBase64?_eq_iff {text bytes : Bytes} (hlong : 32 ≤ bytes.length) :
    (decodeBase64? text).getD text = bytes ↔
      Writes text bytes ∨
        text = bytes ∧ ∀ other, Writes text other → other.length < 32 := by
  rw [← decodeBase64?_eq_none_iff]
  cases hread : decodeBase64? text with
  | none =>
    have hnot : ¬Writes text bytes := fun h => by
      have := decodeBase64?_eq_none_iff.mp hread bytes h
      omega
    simp [hnot]
  | some found =>
    obtain ⟨-, hfound⟩ := decodeBase64?_eq_some_iff.mp hread
    simp only [Option.getD_some, reduceCtorEq, and_false, or_false]
    constructor
    · rintro rfl
      exact hfound
    · exact hfound.unique

/-! ### Texts between blanks -/

theorem utf8_eq_nil_iff {s : String} : utf8 s = [] ↔ s = "" :=
  ⟨fun h => utf8_injective h, fun h => by rw [h]; rfl⟩

variable {raw : String}

/-- A text that is not blank is read as Base64 or as it is, and then measured. -/
theorem decode_cases (hne : Text.trim raw ≠ "") {bytes : Bytes}
    (hread : (decodeBase64? (utf8 (Text.trim raw))).getD (utf8 (Text.trim raw)) = bytes) :
    (∃ hlong : 32 ≤ bytes.length, decode raw = .ok ⟨bytes, hlong⟩) ∨
      bytes.length < 32 ∧ decode raw = .error (.tooShort bytes.length) := by
  subst hread
  rw [decode, if_neg (mt utf8_eq_nil_iff.mp hne)]
  dsimp only
  split
  · next hlong => exact .inl ⟨hlong, rfl⟩
  · next hshort => exact .inr ⟨Nat.lt_of_not_le hshort, rfl⟩

theorem decode_of_blank (h : Text.trim raw = "") : decode raw = .error .empty := by
  rw [decode, if_pos (utf8_eq_nil_iff.mpr h)]

theorem decode_eq_ok_iff {key : SigningSecret} :
    decode raw = .ok key ↔
      Writes (utf8 (Text.trim raw)) key.bytes ∨
        utf8 (Text.trim raw) = key.bytes ∧
          ∀ other, Writes (utf8 (Text.trim raw)) other → other.length < 32 := by
  obtain ⟨bytes, hlong⟩ := key
  rw [← getD_decodeBase64?_eq_iff hlong]
  by_cases hblank : Text.trim raw = ""
  · -- Nothing is Base64 of nothing, which is no key.
    have hnone : (decodeBase64? (utf8 "")).getD (utf8 "") = [] := by decide
    rw [decode_of_blank hblank, hblank, hnone]
    constructor
    · exact fun h => nomatch h
    · rintro rfl
      exact absurd hlong (by decide)
  · rcases decode_cases hblank rfl with ⟨_, hdecode⟩ | ⟨hshort, hdecode⟩
    · rw [hdecode]
      constructor
      · exact fun h => congrArg SigningSecret.bytes (Except.ok.inj h)
      · rintro rfl
        rfl
    · rw [hdecode]
      constructor
      · exact fun h => nomatch h
      · rintro rfl
        omega

/-- **A key written in Base64 is read back.** -/
theorem decode_encode (key : SigningSecret) :
    decode (ofAscii (Base64.encode .standard .full key.bytes)) = .ok key := by
  rw [decode_eq_ok_iff, Text.trim_ofAscii (Base64.visible_encode .standard .full key.bytes),
    Base64.utf8_ofAscii_encode]
  exact .inl (.inl rfl)

theorem decode_eq_empty_iff : decode raw = .error .empty ↔ Text.trim raw = "" := by
  constructor
  · intro h
    by_contra hne
    rcases decode_cases hne rfl with ⟨_, hdecode⟩ | ⟨-, hdecode⟩
    · exact nomatch hdecode.symm.trans h
    · exact nomatch hdecode.symm.trans h
  · exact decode_of_blank

theorem decode_eq_tooShort_iff {n : Nat} :
    decode raw = .error (.tooShort n) ↔
      Text.trim raw ≠ "" ∧ n = (utf8 (Text.trim raw)).length ∧ n < 32 ∧
        ∀ bytes, Writes (utf8 (Text.trim raw)) bytes → bytes.length < 32 := by
  rw [← decodeBase64?_eq_none_iff]
  by_cases hblank : Text.trim raw = ""
  · simp [decode_of_blank hblank, hblank]
  · cases hread : decodeBase64? (utf8 (Text.trim raw)) with
    | none =>
      have hown : (decodeBase64? (utf8 (Text.trim raw))).getD (utf8 (Text.trim raw)) =
          utf8 (Text.trim raw) := by
        rw [hread, Option.getD_none]
      rcases decode_cases hblank hown with ⟨hlong, hdecode⟩ | ⟨hshort, hdecode⟩
      · simp only [hdecode, reduceCtorEq, false_iff]
        omega
      · simp only [hdecode, hblank, not_false_eq_true, ne_eq, Except.error.injEq,
          SecretError.tooShort.injEq, and_true, true_and]
        omega
    | some bytes =>
      have hlong := (decodeBase64?_eq_some_iff.mp hread).1
      have hfound : (decodeBase64? (utf8 (Text.trim raw))).getD (utf8 (Text.trim raw)) = bytes := by
        rw [hread, Option.getD_some]
      rcases decode_cases hblank hfound with ⟨_, hdecode⟩ | ⟨hshort, -⟩
      · simp [hdecode]
      · omega

/-- **Secrets are read exactly.** A key that is written in Base64, between any blanks, is read as
that key. What is read is what the text between the blanks is Base64 of, or its own bytes where it
is Base64 of no key. A secret is empty exactly if it is blank, and else too short exactly if neither
way of reading it gives enough bytes. -/
theorem decode_exact :
    (∀ (bytes : Bytes) (hlong : 32 ≤ bytes.length) (before text after : String),
      (∀ c ∈ before.toList, isBlank c = true) → (∀ c ∈ after.toList, isBlank c = true) →
      Writes (utf8 text) bytes → decode (before ++ text ++ after) = .ok ⟨bytes, hlong⟩) ∧
    (∀ raw key, decode raw = .ok key ↔ 32 ≤ key.bytes.length ∧ ∃ body, Text.TrimsTo raw body ∧
      (Writes (utf8 body) key.bytes ∨
        utf8 body = key.bytes ∧ ∀ bytes, 32 ≤ bytes.length → ¬Writes (utf8 body) bytes)) ∧
    (∀ raw, decode raw = .error .empty ↔ ∀ c ∈ raw.toList, isBlank c = true) ∧
    ∀ raw n, decode raw = .error (.tooShort n) ↔ ∃ body, Text.TrimsTo raw body ∧ body ≠ "" ∧
      n = (utf8 body).length ∧ n < 32 ∧ ∀ bytes, Writes (utf8 body) bytes → bytes.length < 32 := by
  refine ⟨?_, fun raw key => ?_, fun raw => ?_, fun raw n => ?_⟩
  · intro bytes hlong before text after hbefore hafter hwrites
    have htrim : Text.trim (before ++ text ++ after) = text :=
      Text.trim_between hbefore hafter hwrites.visible
    exact decode_eq_ok_iff.mpr (.inl (by rwa [htrim]))
  · simp only [decode_eq_ok_iff, ← Text.trim_eq_iff, exists_eq_left', key.longEnough, true_and,
      ← Nat.not_le, imp_not_comm]
  · rw [decode_eq_empty_iff, Text.trim_eq_empty_iff]
  · simp only [decode_eq_tooShort_iff, ← Text.trim_eq_iff, exists_eq_left']

/-- A key without its padding, between blanks of one and of three bytes. -/
theorem decode_unpadded_between :
    decode ("\u3000 " ++ "BwcHBwcHBwcHBwcHBwcHBwcHBwcHBwcHBwcHBwcHBwc" ++ "\n") =
      .ok ⟨List.replicate 32 7, by decide⟩ :=
  decode_exact.1 (List.replicate 32 7) (by decide) "\u3000 " _ "\n"
    (List.all_eq_true.mp (by decide)) (List.all_eq_true.mp (by decide)) (.inr (by decide))

end SigningSecret

end TokenAuth
