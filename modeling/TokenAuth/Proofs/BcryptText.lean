import TokenAuth.Password.BcryptHash
import TokenAuth.Proofs.Base64
import TokenAuth.Proofs.Digits
import TokenAuth.Proofs.Split

/-!
# What a bcrypt hash is written as

A text is read as a hash exactly if it spells that hash (`read_eq_ok_iff`): a marker, a cost and a
body between dollar signs. More than one dollar sign counts as one, and a cost has any number of
leading zeros, so the text that is written is not the only one that is read.
-/

namespace TokenAuth.Password.BcryptHash

variable {h : BcryptHash}

/-- What follows the last dollar sign: the salt and the digest. -/
def body (h : BcryptHash) : String := encodeBase64 h.salt ++ encodeBase64 h.digest

/-- A cost is digits, which a plus sign may precede. -/
def CostText (text : String) (cost : Nat) : Prop :=
  ∃ digits, digits ≠ [] ∧ Digits.value digits = cost ∧
    (text = Digits.text digits ∨ text = "+" ++ Digits.text digits)

def dollars (count : Nat) : String := String.ofList (List.replicate count '$')

/-- A text of a hash. -/
def Spells (text : String) (h : BcryptHash) : Prop :=
  ∃ marker ∈ markers, ∃ cost, CostText cost h.cost ∧ ∃ i j k l,
    text = dollars i ++ marker ++ dollars (j + 1) ++ cost ++ dollars (k + 1) ++ h.body ++ dollars l

/-- An admissible cost, and a salt and a digest of full length. -/
structure Complete (h : BcryptHash) : Prop where
  cost : minCost ≤ h.cost ∧ h.cost ≤ maxCost
  salt : h.salt.length = 16
  digest : h.digest.length = 23

/-! ### Parts -/

theorem parts_eq (text : String) :
    parts text = (Text.words '$' text.toList).map String.ofList :=
  rfl

theorem parts_eq_three_iff {text a b c : String} :
    parts text = [a, b, c] ↔ (a ≠ "" ∧ '$' ∉ a.toList) ∧ (b ≠ "" ∧ '$' ∉ b.toList) ∧
      (c ≠ "" ∧ '$' ∉ c.toList) ∧ ∃ i j k l,
        text = dollars i ++ a ++ dollars (j + 1) ++ b ++ dollars (k + 1) ++ c ++ dollars l := by
  have hwords : parts text = [a, b, c] ↔
      Text.words '$' text.toList = [a.toList, b.toList, c.toList] := by
    rw [parts_eq]
    constructor
    · intro h
      have := congrArg (List.map String.toList) h
      simpa [Function.comp_def] using this
    · intro h
      simp [h]
  simp only [hwords, Text.words_eq_three_iff, ne_eq, String.toList_eq_nil_iff, ← String.toList_inj,
    String.toList_append, dollars, String.toList_ofList]

/-! ### Costs -/

theorem readCost?_eq_some_iff {text : String} {n : Nat} :
    readCost? text = some n ↔ CostText text n ∧ n < 0x100000000 := by
  rw [readCost?, Option.filter_eq_some_iff, decide_eq_true_eq]
  apply and_congr_left'
  rw [Digits.nat?_eq_some_iff]
  constructor
  · rintro ⟨digits, hne, hdigits, hvalue⟩
    refine ⟨digits, hne, hvalue, ?_⟩
    split at hdigits
    · next rest hrest =>
      right
      rw [← String.toList_inj, hrest, hdigits]
      simp
    · exact .inl (String.toList_inj.mp hdigits)
  · rintro ⟨digits, hne, hvalue, rfl | rfl⟩
    · refine ⟨digits, hne, ?_, hvalue⟩
      have hplus : '+' ∉ (Digits.text digits).toList := Digits.not_mem_text (by decide) digits
      split
      · next rest hrest => exact absurd (hrest ▸ List.mem_cons_self) hplus
      · rfl
    · exact ⟨digits, hne, by simp, hvalue⟩

/-! ### Salts and digests -/

theorem utf8_encodeBase64 (bs : Bytes) : utf8 (encodeBase64 bs) = Base64.encode .bcrypt .none bs :=
  Base64.utf8_ofAscii_encode .bcrypt .none bs

theorem dollar_not_mem_encodeBase64 (bs : Bytes) : '$' ∉ (encodeBase64 bs).toList := by
  intro h
  obtain ⟨n, hn, heq⟩ := Base64.symbol_of_mem_text h
  have hall : ∀ n < 64, '$' ≠ Char.ofNat (Base64.Alphabet.bcrypt.symbol n).toNat := by decide
  exact hall n hn heq

theorem decodeBase64_eq_ok_iff {bs bytes : Bytes} :
    decodeBase64 bs = .ok bytes ↔ bs = Base64.encode .bcrypt .none bytes := by
  rw [decodeBase64, Outcome.mapError_eq_ok_iff, Base64.decode_eq_ok_iff]

theorem splitBody?_eq_some_iff {text : String} {salt digest : Bytes} :
    splitBody? text = some (salt, digest) ↔
      utf8 text = salt ++ digest ∧ salt.length = 22 ∧ digest.length = 31 ∧
        (ofUtf8? salt).isSome := by
  simp only [splitBody?, Option.ite_none_right_eq_some, Option.some.injEq, Prod.mk.injEq]
  constructor
  · rintro ⟨⟨hlength, hvalid⟩, rfl, rfl⟩
    refine ⟨(List.take_append_drop 22 _).symm, ?_, ?_, hvalid⟩
    · rw [List.length_take, hlength]
      rfl
    · rw [List.length_drop, hlength]
  · rintro ⟨htext, hsalt, hdigest, hvalid⟩
    rw [htext, List.take_left' hsalt, List.drop_left' hsalt, List.length_append, hsalt, hdigest]
    exact ⟨⟨rfl, hvalid⟩, rfl, rfl⟩

theorem splitBody?_encode_iff {text : String} {h : BcryptHash} :
    splitBody? text =
        some (Base64.encode .bcrypt .none h.salt, Base64.encode .bcrypt .none h.digest) ↔
      text = h.body ∧ h.salt.length = 16 ∧ h.digest.length = 23 := by
  have hutf8 : utf8 h.body =
      Base64.encode .bcrypt .none h.salt ++ Base64.encode .bcrypt .none h.digest := by
    rw [body, utf8_append, utf8_encodeBase64, utf8_encodeBase64]
  have hvalid : (ofUtf8? (Base64.encode .bcrypt .none h.salt)).isSome := by
    rw [← utf8_encodeBase64, ofUtf8?_utf8]
    rfl
  have htext : text = h.body ↔ utf8 text = utf8 h.body := ⟨congrArg utf8, utf8_injective⟩
  rw [splitBody?_eq_some_iff, htext, hutf8, Base64.length_encode_none, Base64.length_encode_none]
  simp only [hvalid, and_true]
  apply and_congr_right'
  omega

/-! ### Hashes -/

theorem CostText.no_dollar {text : String} {cost : Nat} (h : CostText text cost) :
    text ≠ "" ∧ '$' ∉ text.toList := by
  obtain ⟨digits, hne, -, rfl | rfl⟩ := h
  · constructor
    · rw [ne_eq, ← String.toList_eq_nil_iff, Digits.toList_text, List.map_eq_nil_iff]
      exact hne
    · exact Digits.not_mem_text (by decide) digits
  · constructor
    · simp [← String.toList_eq_nil_iff]
    · rw [String.toList_append, List.mem_append, not_or]
      exact ⟨by decide, Digits.not_mem_text (by decide) digits⟩

theorem body_no_dollar (hsalt : h.salt.length = 16) : h.body ≠ "" ∧ '$' ∉ h.body.toList := by
  constructor
  · intro hempty
    have hutf8 : utf8 h.body = [] := by
      rw [hempty]
      rfl
    rw [body, utf8_append, utf8_encodeBase64, List.append_eq_nil_iff, Base64.encode_eq_nil_iff]
      at hutf8
    rw [hutf8.1] at hsalt
    exact absurd hsalt (by decide)
  · simp [body, dollar_not_mem_encodeBase64]

theorem read_eq_ok_iff_parts {text : String} :
    read text = .ok h ↔ ∃ marker cost body, parts text = [marker, cost, body] ∧
      marker ∈ markers ∧ readCost? cost = some h.cost ∧
      splitBody? body =
        some (Base64.encode .bcrypt .none h.salt, Base64.encode .bcrypt .none h.digest) ∧
      minCost ≤ h.cost ∧ h.cost ≤ maxCost := by
  constructor
  · intro hread
    unfold read at hread
    split at hread
    · next marker cost body hparts =>
      split at hread
      · exact nomatch hread
      next hmarker =>
      split at hread
      · exact nomatch hread
      next n hcost =>
      split at hread
      · exact nomatch hread
      next saltText digestText hbody =>
      obtain ⟨salt, hsalt, hread⟩ := Outcome.bind_eq_ok_iff.mp hread
      split at hread
      · exact nomatch hread
      next hrange =>
      obtain ⟨digest, hdigest, hread⟩ := Outcome.bind_eq_ok_iff.mp hread
      obtain rfl := Except.ok.inj hread
      rw [decodeBase64_eq_ok_iff.mp hsalt, decodeBase64_eq_ok_iff.mp hdigest] at hbody
      refine ⟨marker, cost, body, hparts, by simpa using hmarker, hcost, hbody, ?_⟩
      dsimp only
      omega
    · exact nomatch hread
  · rintro ⟨marker, cost, body, hparts, hmarker, hcost, hbody, hmin, hmax⟩
    have hknown : (!markers.contains marker) = false := by simpa using hmarker
    have hrange : ¬(h.cost < minCost ∨ maxCost < h.cost) := by omega
    have hdecode (bytes : Bytes) : decodeBase64 (Base64.encode .bcrypt .none bytes) = .ok bytes :=
      decodeBase64_eq_ok_iff.mpr rfl
    simp only [read, hparts, hknown, hcost, hbody, hdecode, hrange, if_false, Bool.false_eq_true]
    rfl

/-- **A text is read as a hash exactly if it spells that hash**, and the hash is complete. -/
theorem read_eq_ok_iff {text : String} : read text = .ok h ↔ h.Complete ∧ Spells text h := by
  simp only [read_eq_ok_iff_parts, parts_eq_three_iff, readCost?_eq_some_iff, splitBody?_encode_iff]
  constructor
  · rintro ⟨marker, cost, _, ⟨-, -, -, i, j, k, l, htext⟩, hmarker, ⟨hcost, -⟩,
      ⟨rfl, hsalt, hdigest⟩, hrange⟩
    exact ⟨⟨hrange, hsalt, hdigest⟩, marker, hmarker, cost, hcost, i, j, k, l, htext⟩
  · rintro ⟨⟨hrange, hsalt, hdigest⟩, marker, hmarker, cost, hcost, i, j, k, l, htext⟩
    have hmarkerText : ∀ m ∈ markers, m ≠ "" ∧ '$' ∉ m.toList := by decide
    have hsmall : h.cost < 0x100000000 := by
      have : maxCost = 31 := rfl
      omega
    exact ⟨marker, cost, h.body, ⟨hmarkerText marker hmarker, hcost.no_dollar,
      body_no_dollar hsalt, i, j, k, l, htext⟩, hmarker, ⟨hcost, hsmall⟩,
      ⟨rfl, hsalt, hdigest⟩, hrange⟩

/-- What is written after the marker. -/
def afterMarker (h : BcryptHash) : String :=
  Digits.text (Digits.padded 2 h.cost) ++ "$" ++ h.body

theorem text_eq (h : BcryptHash) : h.text = "$2b$" ++ h.afterMarker := by
  simp only [text, afterMarker, body, String.append_assoc]

/-- What is written spells the hash, whichever marker stands in front. -/
theorem spells_afterMarker (h : BcryptHash) {marker : String} (hmarker : marker ∈ markers) :
    Spells ("$" ++ marker ++ "$" ++ h.afterMarker) h := by
  have hcost : CostText (Digits.text (Digits.padded 2 h.cost)) h.cost :=
    ⟨_, Digits.padded_ne_nil 2 h.cost, Digits.value_padded 2 h.cost, .inl rfl⟩
  have hdollar : "$" = dollars 1 := by decide
  have hnone : dollars 0 = "" := by decide
  refine ⟨marker, hmarker, _, hcost, 1, 0, 0, 0, ?_⟩
  rw [afterMarker, hdollar, hnone, String.append_empty]
  simp only [String.append_assoc]

end TokenAuth.Password.BcryptHash
